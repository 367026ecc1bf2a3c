import GraphLint.Proofs.Yaml.FaultOrder
import GraphLint.Proofs.Yaml.FlatMapping
/-! # The line that a message names

The line of a failure is read from its message: from the first place in it that looks like the naming
of a line.  A message first says what is wrong and then where, so the question is what it says before
it comes to its own place.

The wordings of faults name no line (`Problem.lineDigits?_text`).  A fault at the very start of the
stream names no place at all; it may name the place where what was being read began, but that is on
the first line too, since faults are in order (`inOrder_of_firstFailure?`).  So a fault is on its own
line.  A problem with a value is told with the names of keys and with scalars of the text, and these
may look like the naming of any line (`Failure.misleads`).  That is the only way to a wrong line
(`check_line`). -/
namespace GraphLint.Yaml

/-! ## Decimal numbers -/

theorem isDigit_iff {c : Char} : c.isDigit = true ↔ '0'.toNat ≤ c.toNat ∧ c.toNat ≤ '9'.toNat := by
  simp only [Char.isDigit, Bool.and_eq_true, decide_eq_true_eq, ge_iff_le, UInt32.le_iff_toNat_le]
  rfl

theorem isDecimalDigit_of_isDigit {c : Char} (h : c.isDigit = true) :
    Text.isDecimalDigit c = true := by
  have hsmall : c.toNat < 0x80 := Nat.lt_of_le_of_lt (isDigit_iff.mp h).2 (by decide)
  rw [Text.isDecimalDigit, if_pos hsmall, h]

theorem digitValue?_of_isDigit {c : Char} (h : c.isDigit = true) :
    Text.digitValue? 10 c = some (c.toNat - '0'.toNat) := by
  obtain ⟨hlow, hhigh⟩ := isDigit_iff.mp h
  have hrange : ('0' ≤ c && c ≤ '9') = true := by
    rw [Bool.and_eq_true, decide_eq_true_eq, decide_eq_true_eq]
    exact ⟨UInt32.le_iff_toNat_le.mpr hlow, UInt32.le_iff_toNat_le.mpr hhigh⟩
  have hnine : '9'.toNat = '0'.toNat + 9 := rfl
  have hlt : c.toNat - '0'.toNat < 10 := by omega
  rw [Text.digitValue?, Text.hexValue?, if_pos hrange, Option.filter_some,
    if_pos (decide_eq_true hlt)]

/-- Decimal digits denote their number. -/
theorem numberOf?_eq_ofDigitChars {t : Text} (h : ∀ c ∈ t, c.isDigit = true) :
    Text.numberOf? 10 t = some (Nat.ofDigitChars 10 t 0) := by
  suffices hfold : ∀ n : Nat, t.foldlM (fun n d => (Text.digitValue? 10 d).map (n * 10 + ·)) n =
      some (Nat.ofDigitChars 10 t n) from hfold 0
  induction t with
  | nil => exact fun n => rfl
  | cons c t ih =>
    intro n
    rw [List.foldlM_cons, digitValue?_of_isDigit (h c List.mem_cons_self), Nat.ofDigitChars_cons,
      Nat.mul_comm 10 n]
    exact ih (fun c hc => h c (List.mem_cons_of_mem _ hc)) _

theorem isDigit_of_mem_toDigits (n : Nat) : ∀ c ∈ Nat.toDigits 10 n, c.isDigit = true :=
  fun _ hc => Nat.isDigit_of_mem_toDigits (by decide) (by decide) hc

theorem word?_toDigits (n : Nat) :
    word? (Nat.toDigits 10 n) = if n < UInt32.size then some n else none := by
  have hpow : Nat.pow 2 32 = UInt32.size := rfl
  rw [word?, parseDigits?, if_neg (by simp), numberOf?_eq_ofDigitChars (isDigit_of_mem_toDigits n),
    Nat.ofDigitChars_ten_toDigits, Option.filter_some]
  simp only [decide_eq_true_eq, hpow]

/-! ## The first line that a text names -/

/-- The digits that a text starts with after the word `line`. -/
def digitsHere (t : Text) : Text :=
  ((Text.after? lineWord t).getD []).takeWhile Text.isDecimalDigit

theorem lineDigits?_cons (inWord : Bool) (c : Char) (t : Text) :
    lineDigits? inWord (c :: t) =
      if inWord = true ∨ digitsHere (c :: t) = [] then lineDigits? (Text.isWord c) t
      else some (digitsHere (c :: t)) := by
  rw [lineDigits?]
  cases inWord <;> simp [digitsHere]

theorem digitsHere_eq_nil {c : Char} (h : c ≠ 'l') (t : Text) : digitsHere (c :: t) = [] := by
  have hlead : lineWord.isPrefixOf (c :: t) = false := by
    change (('l' == c) && _) = false
    simp [Ne.symm h]
  rw [digitsHere, Text.after?, hlead]
  rfl

/-- A character that `line` does not start with is passed over. -/
theorem lineDigits?_cons_of_ne (inWord : Bool) {c : Char} (h : c ≠ 'l') (t : Text) :
    lineDigits? inWord (c :: t) = lineDigits? (Text.isWord c) t := by
  rw [lineDigits?_cons, if_pos (Or.inr (digitsHere_eq_nil h t))]

theorem lineDigits?_eq_none {t : Text} (h : 'l' ∉ t) (inWord : Bool) :
    lineDigits? inWord t = none := by
  induction t generalizing inWord with
  | nil => rfl
  | cons c t ih =>
    have hc : c ≠ 'l' := fun hc => h (hc ▸ List.mem_cons_self)
    rw [lineDigits?_cons_of_ne inWord hc]
    exact ih (fun ht => h (List.mem_cons_of_mem c ht)) _

/-- A text with which no word and no number goes on. -/
inductive Border : Text → Prop where
  | nil : Border []
  | comma (t : Text) : Border (',' :: t)
  | space {c : Char} (h : Text.isDecimalDigit c = false) (t : Text) : Border (' ' :: c :: t)

namespace Border
variable {t : Text}

theorem takeWhile_append (ht : Border t) (s : Text) :
    (s ++ t).takeWhile Text.isDecimalDigit = s.takeWhile Text.isDecimalDigit := by
  have hnil : t.takeWhile Text.isDecimalDigit = [] := by
    cases ht with
    | nil => rfl
    | comma t => rfl
    | space h t => rfl
  induction s with
  | nil => exact hnil
  | cons c s ih => rw [List.cons_append, List.takeWhile_cons, List.takeWhile_cons, ih]

/-- The word `line` and its number do not run over a border. -/
theorem digitsHere_append (ht : Border t) {s : Text} (hs : s ≠ []) :
    digitsHere (s ++ t) = digitsHere s := by
  match s with
  | c₁ :: c₂ :: c₃ :: c₄ :: c₅ :: s =>
    have hlead : lineWord.isPrefixOf (c₁ :: c₂ :: c₃ :: c₄ :: c₅ :: (s ++ t)) =
        lineWord.isPrefixOf (c₁ :: c₂ :: c₃ :: c₄ :: c₅ :: s) := rfl
    simp only [digitsHere, Text.after?, List.cons_append, hlead]
    split
    · exact ht.takeWhile_append s
    · rfl
  | [c₁, c₂, c₃, c₄] =>
    cases ht with
    | nil => rfl
    | comma t => simp [digitsHere, Text.after?, lineWord, List.isPrefixOf]
    | @space c h t =>
      -- The word `line` ends with the border, but no number follows it.
      have hnone : digitsHere [c₁, c₂, c₃, c₄] = [] := by
        simp [digitsHere, Text.after?, lineWord, List.isPrefixOf]
      rw [hnone, digitsHere, Text.after?]
      split
      · change (c :: t).takeWhile Text.isDecimalDigit = []
        rw [List.takeWhile_cons_of_neg (by simp [h])]
      · rfl
  | [c₁, c₂, c₃] => cases ht <;> simp [digitsHere, Text.after?, lineWord, List.isPrefixOf]
  | [c₁, c₂] => cases ht <;> simp [digitsHere, Text.after?, lineWord, List.isPrefixOf]
  | [c₁] => cases ht <;> simp [digitsHere, Text.after?, lineWord, List.isPrefixOf]

/-- The first line that two texts name together is the first one that the first of them names, or
else the first one that the second names. -/
theorem lineDigits?_append (ht : Border t) (inWord : Bool) (s : Text) :
    lineDigits? inWord (s ++ t) = (lineDigits? inWord s).or (lineDigits? false t) := by
  induction s generalizing inWord with
  | nil =>
    have hcomma : ',' ≠ 'l' := by decide
    have hspace : ' ' ≠ 'l' := by decide
    rw [List.nil_append, lineDigits?, Option.none_or]
    cases ht with
    | nil => rfl
    | comma t => rw [lineDigits?_cons_of_ne inWord hcomma, lineDigits?_cons_of_ne false hcomma]
    | space h t => rw [lineDigits?_cons_of_ne inWord hspace, lineDigits?_cons_of_ne false hspace]
  | cons c s ih =>
    have hhere : digitsHere (c :: (s ++ t)) = digitsHere (c :: s) :=
      ht.digitsHere_append (List.cons_ne_nil c s)
    rw [List.cons_append, lineDigits?_cons, lineDigits?_cons, hhere, ih]
    split <;> rfl

end Border

theorem namedLine?_append {s t : Text} (ht : Border t) :
    namedLine? (s ++ t) = match lineDigits? false s with
      | some digits => word? digits
      | none => namedLine? t := by
  rw [namedLine?, ht.lineDigits?_append]
  cases lineDigits? false s <;> rfl

theorem namedLine?_lt {t : Text} {n : Nat} (h : namedLine? t = some n) : n < UInt32.size := by
  obtain ⟨digits, -, hword⟩ := Option.bind_eq_some_iff.mp h
  have hlt := (Option.filter_eq_some_iff.mp hword).2
  simpa using hlt

/-! ## Places in messages -/

theorem toList_describe (m : Mark) : m.describe.toList =
    ' ' :: 'a' :: 't' :: ' ' :: 'l' :: 'i' :: 'n' :: 'e' :: ' ' ::
      (Nat.toDigits 10 (m.line + 1) ++
        (" column ".toList ++ Nat.toDigits 10 (m.column + 1))) := by
  simp [Mark.describe, String.toList_append]

theorem border_describe (m : Mark) (t : Text) : Border (m.describe.toList ++ t) := by
  rw [toList_describe]
  exact .space (by decide) _

/-- A place names its line, whatever follows. -/
theorem lineDigits?_describe (m : Mark) (t : Text) :
    lineDigits? false (m.describe.toList ++ t) = some (Nat.toDigits 10 (m.line + 1)) := by
  have hcolumn : Border (" column ".toList ++ Nat.toDigits 10 (m.column + 1) ++ t) := by
    rw [List.append_assoc]
    exact .space (c := 'c') (by decide) _
  have hdigits : ∀ c ∈ Nat.toDigits 10 (m.line + 1), Text.isDecimalDigit c = true :=
    fun c hc => isDecimalDigit_of_isDigit (isDigit_of_mem_toDigits _ c hc)
  have hhere (u : Text) (hu : Border u) :
      digitsHere ('l' :: 'i' :: 'n' :: 'e' :: ' ' :: (Nat.toDigits 10 (m.line + 1) ++ u)) =
        Nat.toDigits 10 (m.line + 1) := by
    change (Nat.toDigits 10 (m.line + 1) ++ u).takeWhile Text.isDecimalDigit = _
    rw [hu.takeWhile_append, List.takeWhile_eq_self_iff.mpr hdigits]
  have hword : Text.isWord ' ' = false := by decide
  rw [toList_describe]
  simp only [List.cons_append, List.append_assoc]
  rw [lineDigits?_cons_of_ne _ (by decide), lineDigits?_cons_of_ne _ (by decide),
    lineDigits?_cons_of_ne _ (by decide), lineDigits?_cons_of_ne _ (by decide), lineDigits?_cons,
    hhere _ (by simpa using hcolumn), if_neg]
  simp [hword]

/-- The wordings of problems name no line. -/
theorem Problem.lineDigits?_text (p : Problem) : lineDigits? false p.text.toList = none := by
  cases p <;> decide +kernel

/-- Neither do those of activities. -/
theorem Activity.lineDigits?_text (a : Activity) : lineDigits? false a.text.toList = none := by
  cases a <;> decide +kernel

/-! ## Which line a failure is on -/

/-- The line of a place, from zero, counted in 32 bits. -/
def Mark.ownLine (m : Mark) : Nat := m.lineFromOne.toNat - 1

theorem Mark.toNat_lineFromOne (m : Mark) : m.lineFromOne.toNat = (m.line + 1) % UInt32.size :=
  UInt32.toNat_ofNat'

/-- Of a text of less than 2³² lines, the lines are counted as they are. -/
theorem Mark.ownLine_eq {m : Mark} (h : m.line + 1 < UInt32.size) : m.ownLine = m.line := by
  rw [ownLine, toNat_lineFromOne, Nat.mod_eq_of_lt h, Nat.add_sub_cancel]

/-- Whether a text with which a message goes on names no line but that of a place. -/
structure NamesOnly (m : Mark) (t : Text) : Prop where
  border : Border t
  eq_of_named : ∀ n, namedLine? t = some n → n = m.lineFromOne.toNat

namespace NamesOnly
variable {m : Mark} {s t : Text}

theorem nil : NamesOnly m [] := ⟨.nil, nofun⟩

theorem describe (m : Mark) (t : Text) : NamesOnly m (m.describe.toList ++ t) where
  border := border_describe m t
  eq_of_named n hn := by
    rw [namedLine?, lineDigits?_describe, Option.bind_some, word?_toDigits] at hn
    split at hn
    · rename_i h
      rw [Mark.toNat_lineFromOne, Nat.mod_eq_of_lt h]
      exact (Option.some.inj hn).symm
    · cases hn

theorem place (m : Mark) : NamesOnly m (Failure.place m).toList := by
  rw [Failure.place]
  split
  · exact nil
  · simpa using describe m []

/-- After a text that names no line. -/
theorem append (h : NamesOnly m t) (hborder : Border (s ++ t)) (hs : lineDigits? false s = none) :
    NamesOnly m (s ++ t) where
  border := hborder
  eq_of_named n hn := by
    rw [namedLine?_append h.border, hs] at hn
    exact h.eq_of_named n hn

end NamesOnly

/-- What a message says before its place decides which line it is taken to be about. -/
theorem Failure.line_eq_iff {f : Failure} {m : Mark} {said t : Text} (hm : f.mark? = some m)
    (hmessage : f.message.toList = said ++ t) (ht : NamesOnly m t) :
    f.line = m.ownLine ↔ ∀ n, namedLine? said = some n → n - 1 = m.ownLine := by
  rw [line, hm, hmessage, namedLine?_append ht.border]
  cases hsaid : lineDigits? false said with
  | some digits =>
    have hword : namedLine? said = word? digits := by rw [namedLine?, hsaid, Option.bind_some]
    rw [hword]
    cases hdigits : word? digits with
    | some n => simp [hdigits]
    | none => simp [hdigits, Mark.ownLine]
  | none =>
    have hword : namedLine? said = none := by rw [namedLine?, hsaid, Option.bind_none]
    rw [hword]
    cases hnamed : namedLine? t with
    | some n => simp [Mark.ownLine, ht.eq_of_named n hnamed]
    | none => simp [Mark.ownLine]

/-! ### Faults -/

namespace Fault
variable {f : Fault}

/-- What a fault says after its place: what was being read, and where that began. -/
def contextText (f : Fault) : String :=
  match f.context with
  | none => ""
  | some (activity, since) =>
    ", " ++ activity.text ++
      (if since.atTop || since.samePlace f.mark then "" else since.describe)

/-- At the very start of the stream what was being read began there too, or on the same line. -/
theorem namesOnly_contextText (h : f.InOrder) (htop : f.mark.atTop = true) :
    NamesOnly f.mark f.contextText.toList := by
  have hline : f.mark.line = 0 := by
    simp only [Mark.atTop, Bool.and_eq_true, beq_iff_eq] at htop
    exact htop.1
  rw [contextText]
  split
  · exact .nil
  · rename_i activity since hcontext
    have hle : since.line ≤ f.mark.line := h _ hcontext
    have hzero : since.line = 0 := by omega
    have hsince : since.lineFromOne = f.mark.lineFromOne := by
      rw [Mark.lineFromOne, Mark.lineFromOne, hline, hzero]
    have hplace : NamesOnly f.mark
        (if since.atTop || since.samePlace f.mark then "" else since.describe : String).toList := by
      split
      · exact .nil
      · have hdescribe := NamesOnly.describe since []
        rw [List.append_nil] at hdescribe
        exact ⟨hdescribe.border, hsince ▸ hdescribe.eq_of_named⟩
    have hactivity : lineDigits? false (", " ++ activity.text).toList = none := by
      simp only [String.toList_append, String.reduceToList, List.cons_append, List.nil_append]
      rw [lineDigits?_cons_of_ne _ (by decide), lineDigits?_cons_of_ne _ (by decide)]
      exact activity.lineDigits?_text
    rw [String.toList_append]
    refine hplace.append ?_ hactivity
    simp only [String.toList_append, String.reduceToList]
    exact .comma _

/-- A fault says what is wrong, and then names no line but its own. -/
theorem exists_message_eq (h : f.InOrder) :
    ∃ t, f.message.toList = f.problem.text.toList ++ t ∧ NamesOnly f.mark t := by
  have hmessage : f.message = f.problem.text ++
      (if f.mark.atTop then if f.offset = 0 then "" else " at position " ++ toString f.offset
        else f.mark.describe) ++ f.contextText := rfl
  refine ⟨_, by rw [hmessage, String.toList_append, String.toList_append, List.append_assoc], ?_⟩
  split
  · rename_i htop
    have hcontext := namesOnly_contextText h htop
    split
    · exact hcontext
    · have hposition : (" at position " ++ toString f.offset : String).toList =
          " at position ".toList ++ Nat.toDigits 10 f.offset := by
        simp [String.toList_append]
      rw [hposition]
      refine hcontext.append ?_ (lineDigits?_eq_none (fun hl => ?_) false)
      · rw [List.append_assoc]
        exact .space (c := 'a') (by decide) _
      · rcases List.mem_append.mp hl with hl | hl
        · revert hl
          decide +kernel
        · exact absurd (isDigit_of_mem_toDigits _ _ hl) (by decide)
  · exact .describe _ _

end Fault

/-! ### All failures -/

/-- What a message says about a problem with a value before it names the place. -/
def ValueProblem.said (problem : ValueProblem) (path : Text) : Text :=
  (if path = ['.'] then [] else path ++ [':', ' ']) ++ problem.message.toList

namespace Failure
variable {f : Failure} {m : Mark}

/-- Whether a failure names another line than its own before it comes to its own: its message does
with the names of keys, or with a scalar. -/
def misleads : Failure → Bool
  | .value problem path m => (namedLine? (problem.said path)).any (· - 1 != m.ownLine)
  | .fault _ | .unknownAnchor _ | .tooDeep _ | .tooManyAliases => false

theorem toList_message_value (problem : ValueProblem) (path : Text) (m : Mark) :
    (Failure.value problem path m).message.toList = problem.said path ++ (place m).toList := by
  have hlead : (if path = ['.'] then "" else String.ofList path ++ ": " : String).toList =
      if path = ['.'] then [] else path ++ [':', ' '] := by
    split <;> simp [String.toList_append]
  rw [ValueProblem.said, ← hlead, ← String.toList_append, ← String.toList_append]
  rfl

/-- A failure is taken to be about its own line unless it misleads. -/
theorem line_eq_ownLine_iff (hm : f.mark? = some m)
    (hfault : ∀ fault, f = .fault fault → fault.InOrder) :
    f.line = m.ownLine ↔ f.misleads = false := by
  have hown {said t : Text} (hsaid : lineDigits? false said = none)
      (hmessage : f.message.toList = said ++ t) (ht : NamesOnly m t) : f.line = m.ownLine := by
    rw [line_eq_iff hm hmessage ht, namedLine?, hsaid]
    exact nofun
  cases f with
  | fault fault =>
    cases hm
    obtain ⟨t, hmessage, ht⟩ := Fault.exists_message_eq (hfault fault rfl)
    exact iff_of_true (hown fault.problem.lineDigits?_text hmessage ht) rfl
  | unknownAnchor m =>
    cases hm
    have hsaid : lineDigits? false "unknown anchor".toList = none := by decide +kernel
    exact iff_of_true (hown hsaid String.toList_append (.place m)) rfl
  | tooDeep m =>
    cases hm
    have hsaid : lineDigits? false "recursion limit exceeded".toList = none := by decide +kernel
    exact iff_of_true (hown hsaid String.toList_append (.place m)) rfl
  | tooManyAliases => cases hm
  | value problem path m' =>
    obtain rfl : m' = m := Option.some.inj hm
    rw [line_eq_iff hm (toList_message_value problem path m') (.place m'), misleads]
    cases namedLine? (problem.said path) <;> simp

/-- A line named before the place of a problem with a value is taken to be its line. -/
theorem line_of_named {problem : ValueProblem} {path : Text} {n : Nat}
    (h : namedLine? (problem.said path) = some n) :
    (Failure.value problem path m).line = n - 1 := by
  rw [line, toList_message_value, namedLine?_append (NamesOnly.place m).border]
  rw [namedLine?] at h
  cases hdigits : lineDigits? false (problem.said path) with
  | none =>
    rw [hdigits] at h
    cases h
  | some digits =>
    rw [hdigits, Option.bind_some] at h
    simp [h]

theorem line_lt (f : Failure) : f.line < UInt32.size := by
  have hown : (f.mark?.map (·.lineFromOne.toNat)).getD 0 < UInt32.size := by
    cases f.mark? with
    | none => decide
    | some m => exact m.lineFromOne.toNat_lt
  rw [line]
  cases hmessage : namedLine? f.message.toList with
  | none => exact Nat.lt_of_le_of_lt (Nat.sub_le _ _) hown
  | some n => exact Nat.lt_of_le_of_lt (Nat.sub_le _ _) (namedLine?_lt hmessage)

end Failure

/-! ## The line of an error -/

/-- How an error compares with the failure that it reports. -/
structure Reports (e : FormError) (f : Failure) : Prop where
  message : e.message = f.message
  /-- The line is that of the failure's place exactly if the message names no other line before. -/
  own : ∀ m, f.mark? = some m → (e.line.toNat = m.ownLine ↔ f.misleads = false)
  /-- Of a text of less than 2³² lines, that is the line on which the place is. -/
  located : ∀ m, f.mark? = some m → m.line + 1 < UInt32.size →
    (e.line.toNat = m.line ↔ f.misleads = false)
  /-- Otherwise it is the one that the message names first. -/
  named : ∀ problem path m n, f = .value problem path m →
    namedLine? (problem.said path) = some n → e.line.toNat = n - 1
  /-- A failure without a place is reported on the first line. -/
  nowhere : f.mark? = none → e.line = 0

/-- **The line of an error is that of the failure's own place unless its message misleads**, which only
a problem with a value can. -/
theorem check_line {text : Text} {e : FormError} (h : check text = .error e) :
    ∃ f, failure? text = some f ∧ Reports e f := by
  rw [check] at h
  split at h
  · cases h
  · rename_i hblank
    cases hf : firstFailure? (documents text) with
    | none =>
      rw [hf] at h
      cases h
    | some f =>
      rw [hf] at h
      cases h
      have hline : (UInt32.ofNat f.line).toNat = f.line := UInt32.toNat_ofNat_of_lt' f.line_lt
      have hown (m : Mark) (hm : f.mark? = some m) :
          (UInt32.ofNat f.line).toNat = m.ownLine ↔ f.misleads = false := by
        rw [hline]
        refine Failure.line_eq_ownLine_iff hm ?_
        rintro fault rfl
        exact inOrder_of_firstFailure? hf
      refine ⟨f, by rw [failure?, if_neg hblank, hf], rfl, hown, fun m hm hlines => ?_, ?_,
        fun hnone => ?_⟩
      · rw [← Mark.ownLine_eq hlines]
        exact hown m hm
      · rintro problem path m n rfl hn
        rw [hline, Failure.line_of_named hn]
      · cases f with
        | tooManyAliases => decide +kernel
        | fault | unknownAnchor | tooDeep | value => cases hnone

/-- A mapping in a mapping, with a key that stands there twice and looks like the naming of a line. -/
def misreadKey : Text := "a:\n  \"line 7\": 1\n  \"line 7\": 2\n".toList

theorem check_misreadKey : check misreadKey =
    .error ⟨6, "a: duplicate entry with key \"line 7\" at line 2 column 3"⟩ := by
  have h : (match check misreadKey with
      | .error e => some e
      | .ok _ => none) =
      some ⟨6, "a: duplicate entry with key \"line 7\" at line 2 column 3"⟩ := by
    decide +kernel
  cases hcheck : check misreadKey with
  | error e =>
    rw [hcheck] at h
    exact congrArg Except.error (Option.some.inj h)
  | ok u =>
    rw [hcheck] at h
    cases h

/-- The error is reported on the line that the key names. -/
theorem check_line_misreadKey : ∃ e, check misreadKey = .error e ∧
    ∃ f, failure? misreadKey = some f ∧ Reports e f :=
  ⟨_, check_misreadKey, check_line check_misreadKey⟩

/-- The key stands on the second line, and the error on the seventh of a text of three. -/
theorem check_misreadKey_ne_ownLine :
    check misreadKey = .error ⟨6, "a: duplicate entry with key \"line 7\" at line 2 column 3"⟩ ∧
      ((failure? misreadKey).bind Failure.mark?).map (·.line) = some 1 :=
  ⟨check_misreadKey, by decide +kernel⟩

end GraphLint.Yaml
