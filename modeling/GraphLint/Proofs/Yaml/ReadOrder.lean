import GraphLint.Proofs.Yaml.TokenOrder
import GraphLint.Yaml.Event
/-! # The reader never looks back

The reader blames what is wrong with a collection on the mark where the collection starts.  That mark
waits in the stack of the reader, and since tokens come line after line, it is on no later line than
any token still to come (`Reader.InOrder`).  Every step keeps this, or fails with a fault that is in
order (`Reader.step_inOrder`). -/
namespace GraphLint.Yaml

/-- Where the collection starts that an expectation is about. -/
def Expected.since? : Expected → Option Mark
  | .document _ | .content | .root | .documentEnd | .flatItem => none
  | .blockItem since | .blockKey since | .blockValue since | .flowItem _ since | .flowKey _ since
  | .flowValue since | .flowNoValue since | .pairKey since | .pairValue since | .pairEnd since =>
    some since

namespace Reader
variable {least : Nat} {r : Reader} {since m : Mark} {e : Expected}

/-- What holds of a reader between two of its steps: tokens come line after line from the line `least`
on, and no collection that is open starts after it. -/
structure InOrder (least : Nat) (r : Reader) : Prop where
  tokens : r.tokens.InOrder least
  since_le : ∀ e ∈ r.expected :: r.stack, ∀ m ∈ e.since?, m.line ≤ least

namespace InOrder

theorem expect (h : r.InOrder least) (he : ∀ m ∈ e.since?, m.line ≤ least) :
    (r.expect e).InOrder least where
  tokens := h.tokens
  since_le := List.forall_mem_cons.mpr ⟨he, (List.forall_mem_cons.mp h.since_le).2⟩

theorem after (h : r.InOrder least) (he : ∀ m ∈ e.since?, m.line ≤ least) :
    (r.after e).InOrder least where
  tokens := h.tokens
  since_le := by
    obtain ⟨hexpected, hstack⟩ := List.forall_mem_cons.mp h.since_le
    exact List.forall_mem_cons.mpr ⟨hexpected, List.forall_mem_cons.mpr ⟨he, hstack⟩⟩

/-- An expectation about a collection that starts no later than what the reader has come to. -/
theorem expect_since (h : r.InOrder least) (hsince : since.line ≤ least)
    (he : e.since? = some since) : (r.expect e).InOrder least := by
  refine h.expect ?_
  rw [he]
  rintro _ ⟨⟩
  exact hsince

theorem after_since (h : r.InOrder least) (hsince : since.line ≤ least)
    (he : e.since? = some since) : (r.after e).InOrder least := by
  refine h.after ?_
  rw [he]
  rintro _ ⟨⟩
  exact hsince

theorem resume (h : r.InOrder least) : r.resume.InOrder least := by
  rw [Reader.resume]
  split
  · rename_i hstack
    exact ⟨h.tokens, hstack ▸ (List.forall_mem_cons.mp h.since_le).2⟩
  · exact h

end InOrder

theorem skip_resume (r : Reader) : r.resume.skip = r.skip.resume := by
  rw [resume, resume]
  cases hstack : r.stack <;> simp [skip, hstack]

/-- The next token is on no earlier line than what the reader has come from. -/
theorem peek_yields (h : r.InOrder least) :
    Yields (fun t => least ≤ t.start.line ∧ r.InOrder t.start.line ∧ r.skip.InOrder t.start.line)
      r.peek := by
  obtain ⟨⟨list, ending⟩, expected, stack, handles⟩ := r
  have hsince {line : Nat} (hline : least ≤ line) :
      ∀ e ∈ expected :: stack, ∀ m ∈ e.since?, m.line ≤ line :=
    fun e he m hm => Nat.le_trans (h.since_le e he m hm) hline
  cases list with
  | cons t list =>
    obtain ⟨hle, hrest⟩ := h.tokens
    exact ⟨hle, ⟨⟨Nat.le_refl _, hrest⟩, hsince hle⟩, hrest, hsince hle⟩
  | nil =>
    cases ending with
    | error f => exact h.tokens
    | ok mark =>
      have hle : least ≤ mark.line := h.tokens
      exact ⟨hle, ⟨Nat.le_refl mark.line, hsince hle⟩, Nat.le_refl mark.line, hsince hle⟩

/-- The next token of a collection is on no earlier line than its start. -/
theorem peek_since (h : r.InOrder least) (hsince : since.line ≤ least) :
    Yields (fun t => since.line ≤ t.start.line ∧ r.InOrder t.start.line ∧
      r.skip.InOrder t.start.line) r.peek :=
  (peek_yields h).mono fun _ ⟨hle, hpeek, hskip⟩ => ⟨Nat.le_trans hsince hle, hpeek, hskip⟩

/-- Whether a step leaves the reader as it should be, or fails in order. -/
def StepInOrder : Step → Prop := Yields fun r => ∃ least, r.2.InOrder least

theorem emptyScalar_inOrder (h : r.InOrder least) : StepInOrder (r.emptyScalar m) := ⟨least, h⟩

theorem take_inOrder {kind : EventKind} (h : r.skip.InOrder least) :
    StepInOrder (r.take kind m) := ⟨least, h⟩

theorem resume_take_inOrder {kind : EventKind} (h : r.skip.InOrder least) :
    StepInOrder (r.resume.take kind m) := by
  have hskip : r.resume.skip.InOrder least := by
    rw [skip_resume]
    exact h.resume
  exact take_inOrder hskip

/-! ## Directives and documents -/

theorem readDirectives_yields (fuel : Nat) (versioned : Bool) (h : r.InOrder least) :
    Yields (fun r => ∃ least, r.InOrder least) (readDirectives fuel versioned r) := by
  induction fuel generalizing versioned r least with
  | zero => exact ⟨least, h⟩
  | succ fuel ih =>
    rw [readDirectives]
    refine (peek_yields h).bind fun token ⟨_, _, hskip⟩ => ?_
    dsimp only
    split
    · exact .ite (.at _ _) (.ite (.at _ _) (ih true hskip))
    · exact .ite (.at _ _) (ih versioned ⟨hskip.tokens, hskip.since_le⟩)
    · exact ⟨least, h⟩

theorem InOrder.skipDocumentEnds (h : r.InOrder least) : r.skipDocumentEnds.InOrder least := by
  have hdrop (least : Nat) (ts : List Token) (hts : TokensInOrder r.tokens.ending least ts) :
      TokensInOrder r.tokens.ending least (ts.dropWhile (·.kind == .documentEnd)) := by
    induction ts generalizing least with
    | nil => exact hts
    | cons t ts ih =>
      rw [List.dropWhile_cons]
      split
      · exact (ih _ hts.2).mono hts.1
      · exact hts
  exact ⟨hdrop least _ h.tokens, h.since_le⟩

theorem readDocument_inOrder (first : Bool) (h : r.InOrder least) :
    StepInOrder (r.readDocument first) := by
  have hstart : (if first then r else r.skipDocumentEnds).InOrder least := by
    split
    · exact h
    · exact h.skipDocumentEnds
  unfold readDocument
  extract_lets r
  refine (peek_yields hstart).bind fun token ⟨_, hpeek, hskip⟩ => ?_
  dsimp only
  refine .ite ?_ (.ite (take_inOrder hskip) ?_)
  · have hdefaults : r.withDefaults.InOrder token.start.line := ⟨hpeek.tokens, hpeek.since_le⟩
    exact ⟨_, (hdefaults.after (e := .documentEnd) nofun).expect (e := .root) nofun⟩
  · refine (readDirectives_yields _ false hpeek).bind fun r ⟨_, h⟩ => ?_
    have hdefaults : r.withDefaults.InOrder _ := ⟨h.tokens, h.since_le⟩
    refine (peek_yields hdefaults).bind fun next ⟨_, _, hskip⟩ => ?_
    have hcontent := (hskip.after (e := .documentEnd) nofun).expect (e := .content) nofun
    exact .ite (take_inOrder hcontent) (.at _ _)

theorem readDocumentEnd_inOrder (h : r.InOrder least) : StepInOrder r.readDocumentEnd := by
  have hend {r : Reader} {least : Nat} (h : r.InOrder least) :
      InOrder least { r with handles := [], expected := .document false } :=
    ⟨h.tokens, List.forall_mem_cons.mpr ⟨nofun, (List.forall_mem_cons.mp h.since_le).2⟩⟩
  rw [readDocumentEnd]
  refine (peek_yields h).bind fun token ⟨_, hpeek, hskip⟩ => ?_
  exact .ite (take_inOrder (hend hskip)) ⟨_, hend hpeek⟩

/-! ## Nodes -/

/-- A node's properties are on no earlier line than the node. -/
theorem readProperties_yields (h : r.InOrder least) :
    Yields (fun x => (∃ line, least ≤ line ∧ x.2.InOrder line) ∧
      ∀ tag ∈ x.1.tag, least ≤ tag.2.2.line) r.readProperties := by
  rw [readProperties]
  refine (peek_yields h).bind fun token ⟨hle, _, hskip⟩ => ?_
  dsimp only
  split
  · refine (peek_yields hskip).bind fun next ⟨hnext, _, hskip'⟩ => ?_
    have hle' := Nat.le_trans hle hnext
    split
    · refine ⟨⟨_, hle', hskip'⟩, ?_⟩
      rintro _ ⟨⟩
      exact hle'
    · exact ⟨⟨_, hle, hskip⟩, nofun⟩
  · refine (peek_yields hskip).bind fun next ⟨hnext, _, hskip'⟩ => ?_
    split
    · refine ⟨⟨_, Nat.le_trans hle hnext, hskip'⟩, ?_⟩
      rintro _ ⟨⟩
      exact hle
    · refine ⟨⟨_, hle, hskip⟩, ?_⟩
      rintro _ ⟨⟩
      exact hle
  · exact ⟨⟨least, Nat.le_refl _, h⟩, nofun⟩

theorem resolveTag_yields {tag : Option (Text × List UInt8 × Mark)}
    (h : ∀ t ∈ tag, since.line ≤ t.2.2.line) : Yields (fun _ => True) (r.resolveTag since tag) := by
  cases tag with
  | none => trivial
  | some t =>
    rw [resolveTag]
    refine .ite trivial ?_
    split
    · trivial
    · exact Yields.within (h t rfl)

theorem readBare_inOrder (block : Bool) (properties : Properties) (h : r.InOrder least)
    (hsince : since.line ≤ m.line) : StepInOrder (r.readBare block properties since m) :=
  .ite ⟨least, h.resume⟩ (.within hsince)

theorem readNode_inOrder (block flat : Bool) (h : r.InOrder least) :
    StepInOrder (r.readNode block flat) := by
  rw [readNode]
  refine (peek_yields h).bind fun first ⟨_, hfirst, hskip⟩ => ?_
  dsimp only
  split
  · exact resume_take_inOrder hskip
  · refine (readProperties_yields hfirst).bind fun ⟨written, r⟩ ⟨⟨line, hline, h⟩, htag⟩ => ?_
    refine (peek_yields h).bind fun token ⟨hle, hpeek, hskip⟩ => ?_
    refine (resolveTag_yields htag).bind fun tag _ => ?_
    have hsince : first.start.line ≤ token.start.line := Nat.le_trans hline hle
    have hbare (properties : Properties) :
        StepInOrder (r.readBare block properties first.start token.start) :=
      readBare_inOrder block properties hpeek hsince
    -- A collection starts at a token that is used up.
    have hopen {kind : EventKind} {e : Expected} (he : e.since? = some token.start) :
        StepInOrder ((r.expect e).take kind first.start) :=
      take_inOrder (InOrder.expect_since (r := r.skip) hskip (Nat.le_refl _) he)
    dsimp only
    split
    · exact .ite ⟨_, hpeek.expect nofun⟩ (hbare _)
    · exact resume_take_inOrder hskip
    · exact hopen rfl
    · exact hopen rfl
    · exact .ite (hopen rfl) (hbare _)
    · exact .ite (hopen rfl) (hbare _)
    · exact hbare _

/-! ## Collections

Each reading is done for a collection that starts at `since`, on a line that the reader has come to. -/

theorem readBlockItem_inOrder (h : r.InOrder least) (hsince : since.line ≤ least) :
    StepInOrder (r.readBlockItem since) := by
  rw [readBlockItem]
  refine (peek_since h hsince).bind fun token ⟨hsince, _, hskip⟩ => ?_
  dsimp only
  split
  · refine (peek_since hskip hsince).bind fun next ⟨hsince, hpeek, _⟩ => ?_
    split
    · exact emptyScalar_inOrder (hpeek.expect_since hsince rfl)
    · exact emptyScalar_inOrder (hpeek.expect_since hsince rfl)
    · exact readNode_inOrder _ _ (hpeek.after_since hsince rfl)
  · exact resume_take_inOrder hskip
  · exact Yields.within hsince

theorem readFlatItem_inOrder (h : r.InOrder least) : StepInOrder r.readFlatItem := by
  rw [readFlatItem]
  refine (peek_yields h).bind fun token ⟨_, hpeek, hskip⟩ => ?_
  dsimp only
  split
  · refine (peek_yields hskip).bind fun next ⟨_, hpeek, _⟩ => ?_
    split
    · exact emptyScalar_inOrder (hpeek.expect nofun)
    · exact emptyScalar_inOrder (hpeek.expect nofun)
    · exact emptyScalar_inOrder (hpeek.expect nofun)
    · exact emptyScalar_inOrder (hpeek.expect nofun)
    · exact readNode_inOrder _ _ (hpeek.after nofun)
  · exact ⟨_, hpeek.resume⟩

theorem readBlockNode_inOrder {token : Token} (h : r.skip.InOrder least)
    (hsince : since.line ≤ least) (he : e.since? = some since) :
    StepInOrder (r.readBlockNode token e) := by
  rw [readBlockNode]
  refine (peek_since h hsince).bind fun next ⟨hsince, hpeek, _⟩ => ?_
  split
  · exact emptyScalar_inOrder (hpeek.expect_since hsince he)
  · exact emptyScalar_inOrder (hpeek.expect_since hsince he)
  · exact emptyScalar_inOrder (hpeek.expect_since hsince he)
  · exact readNode_inOrder _ _ (hpeek.after_since hsince he)

theorem readBlockKey_inOrder (h : r.InOrder least) (hsince : since.line ≤ least) :
    StepInOrder (r.readBlockKey since) := by
  rw [readBlockKey]
  refine (peek_since h hsince).bind fun token ⟨hsince, _, hskip⟩ => ?_
  split
  · exact readBlockNode_inOrder hskip hsince rfl
  · exact resume_take_inOrder hskip
  · exact Yields.within hsince

theorem readBlockValue_inOrder (h : r.InOrder least) (hsince : since.line ≤ least) :
    StepInOrder (r.readBlockValue since) := by
  rw [readBlockValue]
  refine (peek_since h hsince).bind fun token ⟨hsince, hpeek, hskip⟩ => ?_
  split
  · exact readBlockNode_inOrder hskip hsince rfl
  · exact emptyScalar_inOrder (hpeek.expect_since hsince rfl)

theorem skipComma_yields (first : Bool) (activity : Activity) (problem : Problem)
    (h : r.InOrder least) (hsince : since.line ≤ least) :
    Yields (fun r => ∃ line, since.line ≤ line ∧ r.InOrder line)
      (r.skipComma first activity since problem) := by
  rw [skipComma]
  refine .ite ⟨least, hsince, h⟩ ?_
  exact (peek_since h hsince).bind fun token ⟨hsince, _, hskip⟩ =>
    .ite ⟨_, hsince, hskip⟩ (.within hsince)

theorem readFlowItem_inOrder (first : Bool) (h : r.InOrder least) (hsince : since.line ≤ least) :
    StepInOrder (r.readFlowItem first since) := by
  rw [readFlowItem]
  refine (peek_since h hsince).bind fun token ⟨hsince, hpeek, hskip⟩ => ?_
  refine .ite (resume_take_inOrder hskip) ?_
  refine (skipComma_yields first _ _ hpeek hsince).bind fun r ⟨line, hline, h⟩ => ?_
  refine (peek_since h hline).bind fun token ⟨hsince, hpeek, hskip⟩ => ?_
  split
  · exact take_inOrder (hskip.expect_since hsince rfl)
  · exact resume_take_inOrder hskip
  · exact readNode_inOrder _ _ (hpeek.after_since hsince rfl)

theorem readPairKey_inOrder (h : r.InOrder least) (hsince : since.line ≤ least) :
    StepInOrder (r.readPairKey since) := by
  rw [readPairKey]
  refine (peek_since h hsince).bind fun token ⟨hsince, hpeek, hskip⟩ => ?_
  split
  · exact emptyScalar_inOrder (hskip.expect_since hsince rfl)
  · exact emptyScalar_inOrder (hskip.expect_since hsince rfl)
  · exact emptyScalar_inOrder (hskip.expect_since hsince rfl)
  · exact readNode_inOrder _ _ (hpeek.after_since hsince rfl)

theorem readPairValue_inOrder (h : r.InOrder least) (hsince : since.line ≤ least) :
    StepInOrder (r.readPairValue since) := by
  rw [readPairValue]
  refine (peek_since h hsince).bind fun token ⟨hsince, hpeek, hskip⟩ => ?_
  dsimp only
  split
  · refine (peek_since hskip hsince).bind fun next ⟨hsince, hpeek, _⟩ => ?_
    split
    · exact emptyScalar_inOrder (hpeek.expect_since hsince rfl)
    · exact emptyScalar_inOrder (hpeek.expect_since hsince rfl)
    · exact readNode_inOrder _ _ (hpeek.after_since hsince rfl)
  · exact emptyScalar_inOrder (hpeek.expect_since hsince rfl)

theorem readPairEnd_inOrder (h : r.InOrder least) (hsince : since.line ≤ least) :
    StepInOrder (r.readPairEnd since) := by
  rw [readPairEnd]
  exact (peek_since h hsince).bind fun token ⟨hsince, hpeek, _⟩ =>
    ⟨_, hpeek.expect_since hsince rfl⟩

theorem readFlowKey_inOrder (first : Bool) (h : r.InOrder least) (hsince : since.line ≤ least) :
    StepInOrder (r.readFlowKey first since) := by
  rw [readFlowKey]
  refine (peek_since h hsince).bind fun token ⟨hsince, hpeek, hskip⟩ => ?_
  refine .ite (resume_take_inOrder hskip) ?_
  refine (skipComma_yields first _ _ hpeek hsince).bind fun r ⟨line, hline, h⟩ => ?_
  refine (peek_since h hline).bind fun token ⟨hsince, hpeek, hskip⟩ => ?_
  dsimp only
  split
  · refine (peek_since hskip hsince).bind fun next ⟨hsince, hpeek, _⟩ => ?_
    split
    · exact emptyScalar_inOrder (hpeek.expect_since hsince rfl)
    · exact emptyScalar_inOrder (hpeek.expect_since hsince rfl)
    · exact emptyScalar_inOrder (hpeek.expect_since hsince rfl)
    · exact readNode_inOrder _ _ (hpeek.after_since hsince rfl)
  · exact resume_take_inOrder hskip
  · exact readNode_inOrder _ _ (hpeek.after_since hsince rfl)

theorem readFlowValue_inOrder (h : r.InOrder least) (hsince : since.line ≤ least) :
    StepInOrder (r.readFlowValue since) := by
  rw [readFlowValue]
  refine (peek_since h hsince).bind fun token ⟨hsince, hpeek, hskip⟩ => ?_
  dsimp only
  split
  · refine (peek_since hskip hsince).bind fun next ⟨hsince, hpeek, _⟩ => ?_
    split
    · exact emptyScalar_inOrder (hpeek.expect_since hsince rfl)
    · exact emptyScalar_inOrder (hpeek.expect_since hsince rfl)
    · exact readNode_inOrder _ _ (hpeek.after_since hsince rfl)
  · exact emptyScalar_inOrder (hpeek.expect_since hsince rfl)

theorem readFlowNoValue_inOrder (h : r.InOrder least) (hsince : since.line ≤ least) :
    StepInOrder (r.readFlowNoValue since) := by
  rw [readFlowNoValue]
  exact (peek_since h hsince).bind fun token ⟨hsince, hpeek, _⟩ =>
    emptyScalar_inOrder (hpeek.expect_since hsince rfl)

/-- **A step of the reader leaves it in order or fails in order.** -/
theorem step_inOrder (h : r.InOrder least) : StepInOrder r.step := by
  have hsince : ∀ m ∈ r.expected.since?, m.line ≤ least := (List.forall_mem_cons.mp h.since_le).1
  rw [step]
  cases hexpected : r.expected with
  | document first => exact readDocument_inOrder first h
  | content =>
    refine (peek_yields h).bind fun token ⟨_, hpeek, _⟩ => ?_
    exact .ite (emptyScalar_inOrder hpeek.resume) (readNode_inOrder _ _ hpeek)
  | root => exact readNode_inOrder _ _ h
  | documentEnd => exact readDocumentEnd_inOrder h
  | flatItem => exact readFlatItem_inOrder h
  | blockItem since => exact readBlockItem_inOrder h (hsince since (hexpected ▸ rfl))
  | blockKey since => exact readBlockKey_inOrder h (hsince since (hexpected ▸ rfl))
  | blockValue since => exact readBlockValue_inOrder h (hsince since (hexpected ▸ rfl))
  | flowItem first since => exact readFlowItem_inOrder first h (hsince since (hexpected ▸ rfl))
  | flowKey first since => exact readFlowKey_inOrder first h (hsince since (hexpected ▸ rfl))
  | flowValue since => exact readFlowValue_inOrder h (hsince since (hexpected ▸ rfl))
  | flowNoValue since => exact readFlowNoValue_inOrder h (hsince since (hexpected ▸ rfl))
  | pairKey since => exact readPairKey_inOrder h (hsince since (hexpected ▸ rfl))
  | pairValue since => exact readPairValue_inOrder h (hsince since (hexpected ▸ rfl))
  | pairEnd since => exact readPairEnd_inOrder h (hsince since (hexpected ▸ rfl))

end Reader

end GraphLint.Yaml
