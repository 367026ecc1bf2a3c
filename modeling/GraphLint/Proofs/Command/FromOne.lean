import GraphLint.Command.Check
import GraphLint.Proofs.Validation.Pipeline
import GraphLint.Proofs.Yaml.NamedLine
/-! # Counting from one

Lines and columns are stored from zero and printed from one, and the one is added to a word.  It
never wraps, since no number of a finding is the greatest word.  For findings about expressions and
fields that is a matter of the size of the text.  The line of a finding about the form is another
matter: it is read from a message, which may name any line at all, in the words of the text too.  But
a number that does not fit a word is not read, and whatever line is read or is the complaint's own, it
is counted from one, so one is taken off it (`Complaint.line_add_one_lt`).  The parser may be any
function here. -/
namespace GraphLint

/-! ## Room for one more -/

/-- One can be added to both numbers of a position. -/
def Position.HasRoom (p : Position) : Prop :=
  p.line.toNat + 1 < UInt32.size ∧ p.character.toNat + 1 < UInt32.size

/-- One can be added to all numbers of a range. -/
def Range.HasRoom (r : Range) : Prop := r.start.HasRoom ∧ r.stop.HasRoom

/-- A text whose lines, and the characters of each of them, can be counted from one by words. -/
structure Text.HasRoom (t : Text) : Prop where
  lines_lt : (Text.lines t).length < UInt32.size - 2
  length_lt : ∀ line ∈ Text.lines t, line.length < UInt32.size - 1

namespace Text.HasRoom
variable {text : Text} {r : Range}

theorem addressable (ht : text.HasRoom) : text.Addressable where
  lines_lt := by
    have := ht.lines_lt
    omega
  length_lt line hline := by
    have := ht.length_lt line hline
    omega

theorem of_liesIn (ht : text.HasRoom) (h : r.LiesIn text) : r.HasRoom := by
  obtain ⟨hline, hchar, line, hget, hstop⟩ := h
  have hi := (List.getElem?_eq_some_iff.mp hget).1
  have hlen := ht.length_lt line (List.mem_of_getElem? hget)
  have hlines := ht.lines_lt
  rw [UInt32.le_iff_toNat_le] at hchar
  refine ⟨⟨?_, ?_⟩, ?_, ?_⟩
  · omega
  · omega
  · rw [← hline]
    omega
  · omega

/-- The whole of a line has room, also past the end of the text, if the number of the line has. -/
theorem fullLine (ht : text.HasRoom) {line : UInt32} (h : line.toNat + 1 < UInt32.size) :
    (Range.fullLine text line).HasRoom := by
  have hzero : (0 : UInt32).toNat + 1 < UInt32.size := by decide
  refine ⟨⟨h, hzero⟩, h, ?_⟩
  change (UInt32.ofNat _).toNat + 1 < UInt32.size
  cases hline : (Text.lines text)[line.toNat]? with
  | none => exact hzero
  | some l =>
    have hlen := ht.length_lt l (List.mem_of_getElem? hline)
    have hwidth := Range.width_le l
    rw [Option.map_some, Option.getD_some, UInt32.toNat_ofNat_of_lt' (by omega)]
    omega

end Text.HasRoom

/-! ## What a parser may say -/

namespace Yaml

/-- What a parser says about a text that it refuses: a message in any words, and the line of a place
in the text, counted from one, if it has one. -/
structure Complaint where
  message : String
  own : Option Nat

/-- The line that a complaint is taken to be about, from zero. -/
def Complaint.line (c : Complaint) : Nat :=
  ((namedLine? c.message.toList).or (c.own.map fun n => (UInt32.ofNat n).toNat)).getD 0 - 1

/-- The judgement of a parser on the form of a text.  A blank text is not given to it. -/
def judgeBy (parse : Text → Option Complaint) (text : Text) : Except FormError Unit :=
  if (Text.trim text).isEmpty then .ok ()
  else
    match parse text with
    | some c => .error ⟨UInt32.ofNat c.line, c.message⟩
    | none => .ok ()

/-- What a failure says. -/
def Failure.complaint (f : Failure) : Complaint := ⟨f.message, f.mark?.map (·.line + 1)⟩

theorem Failure.line_complaint (f : Failure) : f.complaint.line = f.line := by
  rw [Complaint.line, Failure.line, complaint, Option.map_map]
  rfl

/-- The judgement on the form of a text is that of a parser. -/
theorem check_eq_judgeBy :
    check = judgeBy fun text => (firstFailure? (documents text)).map Failure.complaint := by
  funext text
  rw [check, judgeBy]
  split
  · rfl
  · cases firstFailure? (documents text) with
    | none => rfl
    | some f =>
      simp only [Option.map_some, f.line_complaint]
      rfl

/-- **Whatever a complaint says**, the line that is taken from it is not the greatest word. -/
theorem Complaint.line_add_one_lt (c : Complaint) : c.line + 1 < UInt32.size := by
  have hread : ((namedLine? c.message.toList).or
      (c.own.map fun n => (UInt32.ofNat n).toNat)).getD 0 < UInt32.size := by
    cases hnamed : namedLine? c.message.toList with
    | some n => exact namedLine?_lt hnamed
    | none =>
      cases c.own with
      | some n => exact UInt32.toNat_lt _
      | none => decide
  rw [line]
  have hsize : 1 < UInt32.size := by decide
  omega

theorem line_of_judgeBy {parse : Text → Option Complaint} {text : Text} {e : FormError}
    (h : judgeBy parse text = .error e) : e.line.toNat + 1 < UInt32.size := by
  rw [judgeBy] at h
  split at h
  · cases h
  · split at h
    · rename_i c _
      cases h
      have hline := c.line_add_one_lt
      rwa [UInt32.toNat_ofNat_of_lt' (by omega)]
    · cases h

end Yaml

/-- Whatever the parser says, all numbers of a finding have room for one more. -/
theorem Validation.hasRoom_of_mem {parse : Text → Option Yaml.Complaint} {config : Config}
    {text : Text} {d : Diagnostic} (ht : text.HasRoom)
    (h : d ∈ validateBy (Yaml.judgeBy parse) config text) : d.range.HasRoom := by
  cases hv : Yaml.judgeBy parse (Expression.neutralise text) with
  | error e =>
    rw [validateBy_of_error hv, List.mem_singleton] at h
    rw [h]
    exact ht.fullLine (Yaml.line_of_judgeBy hv)
  | ok _ =>
    rw [validateBy_of_ok hv] at h
    exact ht.of_liesIn ((findings_check config text).inside ht.addressable d h)

/-! ## What is printed -/

theorem toNat_add_one {n : UInt32} (h : n.toNat + 1 < UInt32.size) : (n + 1).toNat = n.toNat + 1 := by
  rw [UInt32.toNat_add]
  exact Nat.mod_eq_of_lt h

namespace Command
open Styled

/-- How the place of a finding is printed in both reports. -/
structure PrintedFromOne (f : FileDiagnostic) : Prop where
  /-- No number is above `2 ^ 32 - 2`. -/
  hasRoom : f.diagnostic.range.HasRoom
  /-- A reader is told the start, each number one more than it is stored. -/
  reader : ∀ verbose, ∃ rest, (findingLines verbose f).bare = f.file ++
    (":" ++ toString (f.diagnostic.range.start.line.toNat + 1) ++ ":" ++
      toString (f.diagnostic.range.start.character.toNat + 1) ++ " ").toList ++ rest
  /-- A program is told all four numbers, each one more than it is stored. -/
  program : ∀ base,
    (Report.entry base f).field? "line" =
        some (.ofNat (f.diagnostic.range.start.line.toNat + 1)) ∧
      (Report.entry base f).field? "column" =
        some (.ofNat (f.diagnostic.range.start.character.toNat + 1)) ∧
      (Report.entry base f).field? "end_line" =
        some (.ofNat (f.diagnostic.range.stop.line.toNat + 1)) ∧
      (Report.entry base f).field? "end_column" =
        some (.ofNat (f.diagnostic.range.stop.character.toNat + 1))

theorem printedFromOne_of_hasRoom {f : FileDiagnostic} (h : f.diagnostic.range.HasRoom) :
    PrintedFromOne f where
  hasRoom := h
  reader verbose := by
    refine ⟨(within (severityStyle f.diagnostic.severity) f.diagnostic.severity.word ++
      plain ("[" ++ f.diagnostic.stage.tag ++ "]: " ++ f.diagnostic.message ++ "\n") ++
        if verbose then detailLines f.diagnostic else []).bare, ?_⟩
    simp only [findingLines, fromOne, toNat_add_one h.1.1, toNat_add_one h.1.2, bare, textWithin,
      plain, within, List.flatMap_append, List.flatMap_cons, List.flatMap_nil, List.append_nil,
      List.append_assoc]
  program base := by
    rw [← toNat_add_one h.1.1, ← toNat_add_one h.1.2, ← toNat_add_one h.2.1,
      ← toNat_add_one h.2.2]
    exact ⟨rfl, rfl, rfl, rfl⟩

/-- **Numbers are printed from one and never wrap**, for every parser, whatever it says and wherever
it says that it is. -/
theorem printedFromOne_of_mem_validateBy (parse : Text → Option Yaml.Complaint) (config : Config)
    {text : Text} (ht : text.HasRoom) (file : Text) :
    ∀ d ∈ Validation.validateBy (Yaml.judgeBy parse) config text, PrintedFromOne ⟨file, d⟩ :=
  fun _ hd => printedFromOne_of_hasRoom (Validation.hasRoom_of_mem ht hd)

/-- A parser that refuses every text and names the last line that a word can count. -/
def lastLineNamed : Text → Option Yaml.Complaint := fun _ => some ⟨"at line 4294967295", some 1⟩

theorem printedFromOne_of_mem_validateBy_lastLine : Text.HasRoom ['a'] ∧
    (Validation.validateBy (Yaml.judgeBy lastLineNamed) {} ['a']).map (·.range.start.line) =
      [4294967294] ∧
    ∀ d ∈ Validation.validateBy (Yaml.judgeBy lastLineNamed) {} ['a'],
      PrintedFromOne ⟨['a'], d⟩ :=
  have ht : Text.HasRoom ['a'] := ⟨by decide, by decide⟩
  ⟨ht, by decide, printedFromOne_of_mem_validateBy lastLineNamed {} ht ['a']⟩

end Command
end GraphLint
