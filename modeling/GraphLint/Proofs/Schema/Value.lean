import GraphLint.Proofs.Schema.Block
import GraphLint.Proofs.Text.Reading
/-! # The line that gives a field its value

A field of fixed value is given by a line: the name and a colon, one of the spellings of the value, and
then nothing but a comment or a carriage return, with spaces and tabs wherever they may stand.  This is
the grammar `FixedField.IsGivenBy`.

The line is judged from left to right, and the grammar leaves nothing open on the way: neither a name
nor a value starts with a space, so the spaces before them are all that there are
(`dropSpaces_eq_iff`), and `FixedField.isGivenOn` decides the grammar (`isGivenOn_iff`).  The rule was
written as a pattern over the whole text, which reads exactly the lines of the grammar
(`reads_pattern`), so that it matches somewhere in a text if and only if a line of the text is one of
these (`matchesLine_pattern_iff`). -/
namespace GraphLint.Schema
open Text (Pattern)

/-! ## The grammar -/

/-- Spaces and tabs, any number of them. -/
def AreSpaces (t : Text) : Prop := ∀ c ∈ t, c = ' ' ∨ c = '\t'

/-- The spellings of a value: bare, or in a pair of quotes of one kind. -/
inductive Spells (value : Text) : Text → Prop where
  | bare : Spells value value
  | doubleQuoted : Spells value ('"' :: value ++ ['"'])
  | singleQuoted : Spells value ('\'' :: value ++ ['\''])

/-- What may be left of a line: nothing, one carriage return or a comment. -/
inductive IsRest : Text → Prop where
  | nothing : IsRest []
  | returned : IsRest ['\r']
  | comment (t : Text) : IsRest ('#' :: t)

/-- A line gives a field its value. -/
def FixedField.IsGivenBy (f : FixedField) (line : Text) : Prop :=
  ∃ b₁ b₂ v b₃ rest, line = b₁ ++ (header f.name ++ (b₂ ++ (v ++ (b₃ ++ rest)))) ∧
    AreSpaces b₁ ∧ AreSpaces b₂ ∧ Spells f.value.toList v ∧ AreSpaces b₃ ∧ IsRest rest

/-- The fields of a graph definition that have a fixed value. -/
def fields : List FixedField := [kind, apiVersion]

/-- The name and the value of a field: they are words on one line. -/
structure FixedField.IsPlain (f : FixedField) : Prop where
  header_head : ∀ c ∈ (header f.name).head?, Text.isSpaceOrTab c = false
  value_head : ∀ c ∈ f.value.toList.head?, Text.isSpaceOrTab c = false
  value_ne : f.value.toList ≠ []
  not_mem_header : '\n' ∉ header f.name
  not_mem_value : '\n' ∉ f.value.toList

/-- A text that starts with no space, as a test of its first character. -/
theorem isSpaceOrTab_head_of_all {t : Text} (h : t.head?.all (!Text.isSpaceOrTab ·) = true) :
    ∀ c ∈ t.head?, Text.isSpaceOrTab c = false := by
  simpa [Option.all_eq_true] using h

theorem isPlain_of_mem_fields {f : FixedField} (hf : f ∈ fields) : f.IsPlain := by
  simp only [fields, List.mem_cons, List.not_mem_nil, or_false] at hf
  rcases hf with rfl | rfl
  all_goals exact ⟨isSpaceOrTab_head_of_all (by decide), isSpaceOrTab_head_of_all (by decide),
    by decide, by decide, by decide⟩

/-! ## Reading a line -/

section
variable {f : FixedField} {value v line t rest : Text}

theorem areSpaces_iff : AreSpaces t ↔ ∀ c ∈ t, Text.isSpaceOrTab c = true := by
  simp only [AreSpaces, isSpaceOrTab_iff]

/-- **What does not start with a space** is left of a line exactly if only spaces stand before it. -/
theorem dropSpaces_eq_iff (ht : ∀ c ∈ t.head?, Text.isSpaceOrTab c = false) :
    Text.dropSpaces line = t ↔ ∃ b, AreSpaces b ∧ line = b ++ t := by
  constructor
  · rintro rfl
    refine ⟨line.takeWhile Text.isSpaceOrTab, ?_, List.takeWhile_append_dropWhile.symm⟩
    exact areSpaces_iff.mpr fun c hc => List.mem_takeWhile_imp hc
  · rintro ⟨b, hb, rfl⟩
    rw [Text.dropSpaces, List.dropWhile_append_of_pos (areSpaces_iff.mp hb)]
    cases t with
    | nil => rfl
    | cons c t => exact List.dropWhile_cons_of_neg (by simp [ht c rfl])

theorem mem_spellings_iff : v ∈ spellings value ↔ Spells value v := by
  simp only [spellings, List.mem_cons, List.not_mem_nil, or_false]
  constructor
  · rintro (rfl | rfl | rfl)
    · exact .bare
    · exact .doubleQuoted
    · exact .singleQuoted
  · rintro (_ | _ | _) <;> simp

/-- A spelling starts with a character that is no space. -/
theorem Spells.exists_cons (h : Spells value v) (hne : value ≠ [])
    (hvalue : ∀ c ∈ value.head?, Text.isSpaceOrTab c = false) :
    ∃ c u, v = c :: u ∧ Text.isSpaceOrTab c = false := by
  cases h with
  | bare =>
    obtain ⟨c, u, rfl⟩ := List.exists_cons_of_ne_nil hne
    exact ⟨c, u, rfl, hvalue c rfl⟩
  | doubleQuoted => exact ⟨'"', value ++ ['"'], rfl, by decide⟩
  | singleQuoted => exact ⟨'\'', value ++ ['\''], rfl, by decide⟩

theorem IsRest.head (h : IsRest rest) : ∀ c ∈ rest.head?, Text.isSpaceOrTab c = false := by
  rintro c hc
  cases h with
  | nothing => cases hc
  | returned =>
    obtain rfl : '\r' = c := Option.some.inj hc
    decide
  | comment t =>
    obtain rfl : '#' = c := Option.some.inj hc
    decide

theorem endsLine_iff : endsLine t = true ↔ IsRest t := by
  unfold endsLine
  constructor
  · intro h
    split at h
    · exact .nothing
    · exact .returned
    · rename_i c t _
      obtain rfl : c = '#' := beq_iff_eq.mp h
      exact .comment t
  · rintro (_ | _ | t) <;> rfl

/-- Spaces may stand before what is left of a line. -/
theorem endsLine_dropSpaces_iff : endsLine (Text.dropSpaces t) = true ↔
    ∃ b rest, t = b ++ rest ∧ AreSpaces b ∧ IsRest rest := by
  rw [endsLine_iff]
  constructor
  · intro h
    obtain ⟨b, hb, ht⟩ := (dropSpaces_eq_iff h.head).mp rfl
    exact ⟨b, _, ht, hb, h⟩
  · rintro ⟨b, rest, rfl, hb, hrest⟩
    rw [(dropSpaces_eq_iff hrest.head).mpr ⟨b, hb, rfl⟩]
    exact hrest

theorem isGivenOn_eq_true_iff : f.isGivenOn line = true ↔
    ∃ rest v tail, Text.dropSpaces line = header f.name ++ rest ∧ Spells f.value.toList v ∧
      Text.dropSpaces rest = v ++ tail ∧ endsLine (Text.dropSpaces tail) = true := by
  have hvalue : ∀ rest : Text,
      ((spellings f.value.toList).any fun v =>
        (Text.after? v (Text.dropSpaces rest)).any fun tail =>
          endsLine (Text.dropSpaces tail)) = true ↔
      ∃ v tail, Spells f.value.toList v ∧ Text.dropSpaces rest = v ++ tail ∧
        endsLine (Text.dropSpaces tail) = true := by
    intro rest
    simp only [List.any_eq_true, Option.any_eq_true, mem_spellings_iff, Text.after?_eq_some_iff]
    constructor
    · rintro ⟨v, hv, tail, htail, hend⟩
      exact ⟨v, tail, hv, htail, hend⟩
    · rintro ⟨v, tail, hv, htail, hend⟩
      exact ⟨v, hv, tail, htail, hend⟩
  unfold FixedField.isGivenOn
  cases hname : Text.after? (header f.name) (Text.dropSpaces line) with
  | none =>
    refine ⟨nofun, ?_⟩
    rintro ⟨rest, -, -, hline, -⟩
    rw [Text.after?_eq_some_iff.mpr hline] at hname
    cases hname
  | some rest =>
    rw [Text.after?_eq_some_iff] at hname
    simp only [hvalue]
    constructor
    · rintro ⟨v, tail, h⟩
      exact ⟨rest, v, tail, hname, h⟩
    · rintro ⟨rest', v, tail, hline, h⟩
      obtain rfl := List.append_cancel_left (hline.symm.trans hname)
      exact ⟨v, tail, h⟩

/-- **A line is judged by the grammar.** -/
theorem isGivenOn_iff (hf : f.IsPlain) : f.isGivenOn line = true ↔ f.IsGivenBy line := by
  have hheader : ∀ rest, ∀ c ∈ (header f.name ++ rest).head?, Text.isSpaceOrTab c = false := by
    intro rest
    obtain ⟨c, t, ht⟩ : ∃ c t, header f.name = c :: t :=
      List.exists_cons_of_ne_nil (by simp [header])
    have hhead := hf.header_head
    rw [ht] at hhead ⊢
    exact hhead
  have hspelling : ∀ v, Spells f.value.toList v → ∀ tail, ∀ c ∈ (v ++ tail).head?,
      Text.isSpaceOrTab c = false := by
    intro v hv tail c hc
    obtain ⟨d, u, rfl, hd⟩ := hv.exists_cons hf.value_ne hf.value_head
    obtain rfl : d = c := Option.some.inj hc
    exact hd
  rw [isGivenOn_eq_true_iff]
  constructor
  · rintro ⟨rest, v, tail, hline, hv, hrest, hend⟩
    obtain ⟨b₁, h₁, rfl⟩ := (dropSpaces_eq_iff (hheader rest)).mp hline
    obtain ⟨b₂, h₂, rfl⟩ := (dropSpaces_eq_iff (hspelling v hv tail)).mp hrest
    obtain ⟨b₃, rest, rfl, h₃, hrest⟩ := endsLine_dropSpaces_iff.mp hend
    exact ⟨b₁, b₂, v, b₃, rest, rfl, h₁, h₂, hv, h₃, hrest⟩
  · rintro ⟨b₁, b₂, v, b₃, rest, rfl, h₁, h₂, hv, h₃, hrest⟩
    refine ⟨b₂ ++ (v ++ (b₃ ++ rest)), v, b₃ ++ rest, ?_, hv, ?_, ?_⟩
    · exact (dropSpaces_eq_iff (hheader _)).mpr ⟨b₁, h₁, rfl⟩
    · exact (dropSpaces_eq_iff (hspelling v hv _)).mpr ⟨b₂, h₂, rfl⟩
    · exact endsLine_dropSpaces_iff.mpr ⟨b₃, rest, rfl, h₃, hrest⟩

theorem any_isGivenOn_iff (hf : f.IsPlain) {ls : List Text} :
    ls.any f.isGivenOn = true ↔ ∃ line ∈ ls, f.IsGivenBy line := by
  simp only [List.any_eq_true, isGivenOn_iff hf]

/-- A line that gives a field its value holds the name of the field. -/
theorem FixedField.IsGivenBy.isInfix (h : f.IsGivenBy line) : header f.name <:+: line := by
  obtain ⟨b₁, b₂, v, b₃, rest, rfl, -⟩ := h
  rw [← List.append_assoc]
  exact List.infix_append b₁ (header f.name) _

/-! ## The pattern -/

/-- Any number of spaces and tabs: `[ \t]*`. -/
def spacesPattern : Pattern := (Pattern.char Text.isSpaceOrTab).many

/-- The spellings of a value: `(?:value|"value"|'value')`. -/
def spellingPattern (value : Text) : Pattern :=
  (Pattern.word value).choice
    ((Pattern.word ('"' :: value ++ ['"'])).choice (Pattern.word ('\'' :: value ++ ['\''])))

/-- What may be left of a line: `(?:#[^\n]*)?\r?`. -/
def restPattern : Pattern :=
  ((Pattern.only '#').seq (Pattern.char (· != '\n')).many).optional.seq (Pattern.only '\r').optional

/-- A field with its value.  Between the start of a line and the end of one it is
`^[ \t]*name:[ \t]*(?:value|"value"|'value')[ \t]*(?:#[^\n]*)?\r?$`. -/
def FixedField.pattern (f : FixedField) : Pattern :=
  spacesPattern.seq ((Pattern.word (header f.name)).seq (spacesPattern.seq
    ((spellingPattern f.value.toList).seq (spacesPattern.seq restPattern))))

theorem reads_spacesPattern : spacesPattern.Reads AreSpaces :=
  (Pattern.reads_manyChar Text.isSpaceOrTab).congr fun _ => areSpaces_iff.symm

theorem reads_spellingPattern (value : Text) : (spellingPattern value).Reads (Spells value) := by
  refine ((Pattern.reads_word value).choice ((Pattern.reads_word _).choice
    (Pattern.reads_word _))).congr fun v => ?_
  rw [← mem_spellings_iff]
  simp only [spellings, List.mem_cons, List.not_mem_nil, or_false]

/-- A carriage return may stand behind a comment, where it is a part of it. -/
theorem reads_restPattern : restPattern.Reads fun t => IsRest t ∧ '\n' ∉ t := by
  refine (((Pattern.reads_only '#').seq (Pattern.reads_manyChar (· != '\n'))).optional.seq
    (Pattern.reads_only '\r').optional).congr fun t => ?_
  constructor
  · rintro ⟨u, r, rfl, hu, hr⟩
    rcases hu with ⟨_, w, rfl, rfl, hw⟩ | rfl
    · have hfeed : '\n' ∉ w := fun h => by simpa using hw '\n' h
      refine ⟨.comment (w ++ r), ?_⟩
      rcases hr with rfl | rfl <;> simpa using hfeed
    · rcases hr with rfl | rfl
      · exact ⟨.returned, by decide⟩
      · exact ⟨.nothing, by decide⟩
  · rintro ⟨hrest, hfeed⟩
    cases hrest with
    | nothing => exact ⟨[], [], rfl, .inr rfl, .inr rfl⟩
    | returned => exact ⟨[], ['\r'], rfl, .inr rfl, .inl rfl⟩
    | comment w =>
      refine ⟨'#' :: w, [], by simp, .inl ⟨['#'], w, rfl, rfl, fun c hc => ?_⟩, .inr rfl⟩
      exact bne_iff_ne.mpr fun h => hfeed (h ▸ List.mem_cons_of_mem _ hc)

theorem Spells.not_mem (h : Spells value v) (hvalue : '\n' ∉ value) : '\n' ∉ v := by
  cases h with
  | bare => exact hvalue
  | doubleQuoted => simpa using hvalue
  | singleQuoted => simpa using hvalue

theorem AreSpaces.not_mem (h : AreSpaces t) : '\n' ∉ t := by
  intro hfeed
  rcases h _ hfeed with h | h <;> exact absurd h (by decide)

/-- **The pattern reads the lines of the grammar.** -/
theorem reads_pattern (hf : f.IsPlain) : f.pattern.Reads fun t => f.IsGivenBy t ∧ '\n' ∉ t := by
  refine (reads_spacesPattern.seq ((Pattern.reads_word _).seq (reads_spacesPattern.seq
    ((reads_spellingPattern _).seq (reads_spacesPattern.seq reads_restPattern))))).congr fun t => ?_
  constructor
  · rintro ⟨b₁, _, rfl, h₁, _, _, rfl, rfl, b₂, _, rfl, h₂, v, _, rfl, hv, b₃, rest, rfl, h₃,
      hrest, hfeed⟩
    refine ⟨⟨b₁, b₂, v, b₃, rest, rfl, h₁, h₂, hv, h₃, hrest⟩, ?_⟩
    simp only [List.mem_append, not_or]
    exact ⟨h₁.not_mem, hf.not_mem_header, h₂.not_mem, hv.not_mem hf.not_mem_value, h₃.not_mem, hfeed⟩
  · rintro ⟨⟨b₁, b₂, v, b₃, rest, rfl, h₁, h₂, hv, h₃, hrest⟩, hfeed⟩
    simp only [List.mem_append, not_or] at hfeed
    exact ⟨b₁, _, rfl, h₁, _, _, rfl, rfl, b₂, _, rfl, h₂, v, _, rfl, hv, b₃, rest, rfl, h₃, hrest,
      hfeed.2.2.2.2.2⟩

/-- **The pattern matches in a text exactly if a line of the text gives the value.** -/
theorem matchesLine_pattern_iff (hf : f.IsPlain) (text : Text) :
    f.pattern.MatchesLine text ↔ ∃ line ∈ Text.lines text, f.IsGivenBy line := by
  rw [(reads_pattern hf).matchesLine_iff fun _ h => h.2]
  constructor
  · rintro ⟨line, hline, h, -⟩
    exact ⟨line, hline, h⟩
  · rintro ⟨line, hline, h⟩
    exact ⟨line, hline, h, Text.not_mem_of_mem_lines hline⟩

end
end GraphLint.Schema
