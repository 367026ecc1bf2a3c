import GraphLint.Proofs.Yaml.ReadOrder
import GraphLint.Yaml.Verdict
/-! # Every fault of a text is in order

A fault that ends a document comes from a step of the reader (`inOrder_of_mem_documents`).  Building a
value from a document brings no faults of its own: it fails with what ended the document, or with a
failure that is no fault (`Document.passesOn_value`).  So the fault that a text fails with shows on
no earlier line than what was being read began (`inOrder_of_firstFailure?`). -/
namespace GraphLint.Yaml

/-! ## Documents -/

/-- How an event ends a document: not at all, or with a failure that is no fault. -/
theorem Draft.extend_cases (draft : Draft) (event : Event) :
    match draft.extend event with
    | .done d => d.failure = none
    | .failed d => d.failure = some (.unknownAnchor event.mark)
    | .more _ | .streamEnd _ => True := by
  rw [extend]
  cases event.kind with
  | reference name =>
    dsimp only
    cases draft.names.lookup name with
    | some number => trivial
    | none => rfl
  | documentEnd => rfl
  | streamEnd | documentStart | scalar | sequenceStart | sequenceEnd | mappingStart | mappingEnd =>
    trivial

/-- The faults that end documents. -/
theorem inOrder_of_mem_readDocuments {least : Nat} {reader : Reader} (fuel : Nat) (first : Bool)
    (draft : Draft) (h : reader.InOrder least) {d : Document}
    (hd : d ∈ readDocuments fuel first draft reader) {f : Fault} (hf : d.failure = some (.fault f)) :
    f.InOrder := by
  induction fuel generalizing first draft reader least with
  | zero => cases hd
  | succ fuel ih =>
    have hstep := Reader.step_inOrder h
    rw [readDocuments] at hd
    cases hreader : reader.step with
    | error fault =>
      rw [hreader] at hstep hd
      obtain rfl := List.mem_singleton.mp hd
      cases hf
      exact hstep
    | ok result =>
      obtain ⟨event, reader'⟩ := result
      rw [hreader] at hstep hd
      obtain ⟨least', h'⟩ := hstep
      have hextend := draft.extend_cases event
      dsimp only at hd
      split at hd
      · exact ih first _ h' hd
      · rename_i document hdone
        rw [hdone] at hextend
        rcases List.mem_cons.mp hd with rfl | hd
        · rw [hextend] at hf
          cases hf
        · exact ih false _ h' hd
      · rename_i document hfailed
        rw [hfailed] at hextend
        obtain rfl := List.mem_singleton.mp hd
        rw [hextend] at hf
        cases hf
      · split at hd
        · obtain rfl := List.mem_singleton.mp hd
          cases hf
        · cases hd

/-- **A fault that ends a document of a text is in order.** -/
theorem inOrder_of_mem_documents {text : Text} {d : Document} (hd : d ∈ documents text) {f : Fault}
    (hf : d.failure = some (.fault f)) : f.InOrder := by
  have hstart : (Reader.start (.ofText text)).InOrder 0 :=
    ⟨Tokens.ofText_inOrder text, List.forall_mem_cons.mpr ⟨nofun, nofun⟩⟩
  exact inOrder_of_mem_readDocuments _ true .empty hstart hd hf

/-! ## Values -/

namespace Document
variable {d : Document} {α β : Type}

/-- Whether a fault that an outcome may be is the one that ended the document. -/
def PassesOn (d : Document) : Except Failure α → Prop
  | .ok _ => True
  | .error e => ∀ f, e = .fault f → d.failure = some e

namespace PassesOn

theorem ok (a : α) : d.PassesOn (.ok a) := trivial

theorem failAt (path : Path) (m : Mark) (problem : ValueProblem) :
    d.PassesOn (failAt path m problem : Except Failure α) := nofun

theorem tooManyAliases : d.PassesOn (.error .tooManyAliases : Except Failure α) := nofun

theorem tooDeep (m : Mark) : d.PassesOn (.error (.tooDeep m) : Except Failure α) := nofun

theorem ite {c : Prop} [Decidable c] {x y : Except Failure α} (hx : d.PassesOn x)
    (hy : d.PassesOn y) : d.PassesOn (if c then x else y) := by
  split
  · exact hx
  · exact hy

theorem bind {x : Except Failure α} {f : α → Except Failure β} (hx : d.PassesOn x)
    (hf : ∀ a, d.PassesOn (f a)) : d.PassesOn (x >>= f) := by
  cases x with
  | error e => exact hx
  | ok a => exact hf a

end PassesOn

theorem passesOn_next (parts : List Part) : d.PassesOn (d.next parts) := by
  rw [next.eq_def]
  split
  · exact .ok _
  · rename_i hfailure
    exact fun _ _ => hfailure
  · exact .ok _

theorem passesOn_buildScalar (path : Path) (m : Mark) (tag : Option (List UInt8)) (tagged : Bool)
    (t : Text) (style : Style) : d.PassesOn (buildScalar path m tag tagged t style) := by
  unfold buildScalar
  extract_lets result
  cases result with
  | ok v => exact .ok v
  | error problem => exact .failAt path m problem

theorem passesOn_build_all (fuel : Nat) :
    (∀ depth path tagged rest, d.PassesOn (d.build fuel depth path tagged rest)) ∧
    (∀ depth path index rest, d.PassesOn (d.buildItems fuel depth path index rest)) ∧
    (∀ depth path tagged m before rest,
      d.PassesOn (d.buildEntries fuel depth path tagged m before rest)) := by
  induction fuel with
  | zero =>
    simp only [build, buildItems, buildEntries]
    exact ⟨fun _ _ _ _ => .tooManyAliases, fun _ _ _ _ => .tooManyAliases,
      fun _ _ _ _ _ _ => .tooManyAliases⟩
  | succ fuel ih =>
    obtain ⟨hbuild, hitems, hentries⟩ := ih
    refine ⟨fun depth path tagged rest => ?_, fun depth path index rest => ?_,
      fun depth path tagged m before rest => ?_⟩
    · rw [build]
      refine (passesOn_next rest.parts).bind fun next => ?_
      dsimp only
      split
      · exact .failAt _ _ _
      · exact (hbuild _ _ _ _).bind fun _ => .ok _
      · split
        · exact .ok _
        · exact .ok _
        · exact .ite .tooManyAliases ((hbuild _ _ _ _).bind fun _ => .ok _)
        · exact (passesOn_buildScalar _ _ _ _ _ _).bind fun _ => .ok _
        · split
          · exact .tooDeep _
          · exact (hitems _ _ _ _).bind fun _ => .ok _
        · split
          · exact .tooDeep _
          · exact (hentries _ _ _ _ _ _).bind fun _ => .ok _
    · rw [buildItems]
      refine (passesOn_next rest.parts).bind fun next => ?_
      dsimp only
      split
      · exact .ok _
      · exact .ok _
      · refine (hbuild _ _ _ _).bind fun _ => ?_
        exact (hitems _ _ _ _).bind fun _ => .ok _
    · rw [buildEntries]
      refine (passesOn_next rest.parts).bind fun next => ?_
      dsimp only
      split
      · exact .ok _
      · exact .ok _
      · refine (hbuild _ _ _ _).bind fun key => ?_
        exact .ite (.failAt _ _ _) ((hbuild _ _ _ _).bind fun _ => hentries _ _ _ _ _ _)

/-- Building the value of a document brings no fault of its own. -/
theorem passesOn_value : d.PassesOn d.value := by
  rw [value]
  refine ((passesOn_build_all _).1 _ _ _ _).bind fun _ => ?_
  cases hfailure : d.failure with
  | some failure => exact fun _ _ => hfailure
  | none => exact .ok _

end Document

/-- **A fault that is the first failure of a text is in order.** -/
theorem inOrder_of_firstFailure? {text : Text} {f : Fault}
    (h : firstFailure? (documents text) = some (.fault f)) : f.InOrder := by
  have hmem (ds : List Document) (hds : firstFailure? ds = some (.fault f)) :
      ∃ d ∈ ds, d.value = .error (.fault f) := by
    induction ds with
    | nil => cases hds
    | cons d ds ih =>
      rw [firstFailure?] at hds
      split at hds
      · rename_i failure hvalue
        cases hds
        exact ⟨d, List.mem_cons_self, hvalue⟩
      · obtain ⟨d', hd', hvalue⟩ := ih hds
        exact ⟨d', List.mem_cons_of_mem d hd', hvalue⟩
  obtain ⟨d, hd, hvalue⟩ := hmem _ h
  have hpasses := d.passesOn_value
  rw [hvalue] at hpasses
  exact inOrder_of_mem_documents hd (hpasses f rfl)

end GraphLint.Yaml
