import GraphLint.Proofs.Yaml.FlatDocument
/-! # What is wrong with a flat mapping

A mapping is built entry by entry, and a key that stands there already fails it
(`Document.buildEntries_entry`).  Over all entries this is the first key that repeats
(`Document.buildEntries_lines`), and it comes before any fault that cuts the mapping off, for the
fault is met only where the parts end.

`failure?` is the verdict on a text before it is put into words, so that a fault of the lexer or the
reader stays apart from a key that repeats (`check_eq_ok_iff`). -/
namespace GraphLint.Yaml

/-! ## Repeated texts -/

/-- The first text of a list that stands in the list before, or among texts already seen. -/
def firstRepeated? (seen : List Text) : List Text → Option Text
  | [] => none
  | t :: rest => if t ∈ seen then some t else firstRepeated? (seen ++ [t]) rest

theorem firstRepeated?_eq_none_iff (seen ts : List Text) :
    firstRepeated? seen ts = none ↔ ts.Nodup ∧ ∀ t ∈ ts, t ∉ seen := by
  induction ts generalizing seen with
  | nil => simp [firstRepeated?]
  | cons t ts ih =>
    rw [firstRepeated?]
    split
    · rename_i h
      simp [h]
    · rename_i h
      have hsplit : (∀ x ∈ ts, x ∉ seen ++ [t]) ↔ (∀ x ∈ ts, x ∉ seen) ∧ t ∉ ts := by
        constructor
        · intro hts
          refine ⟨fun x hx hseen => hts x hx (List.mem_append_left _ hseen), fun ht => ?_⟩
          exact hts t ht (List.mem_append_right _ List.mem_cons_self)
        · rintro ⟨hts, ht⟩ x hx hmem
          rcases List.mem_append.mp hmem with hseen | hx'
          · exact hts x hx hseen
          · rw [List.mem_singleton.mp hx'] at hx
            exact ht hx
      rw [ih, hsplit, List.nodup_cons, List.forall_mem_cons]
      exact ⟨fun ⟨hn, hs, ht⟩ => ⟨⟨ht, hn⟩, h, hs⟩, fun ⟨⟨ht, hn⟩, _, hs⟩ => ⟨hn, hs, ht⟩⟩

theorem firstRepeated?_nil_eq_none_iff (ts : List Text) :
    firstRepeated? [] ts = none ↔ ts.Nodup := by
  rw [firstRepeated?_eq_none_iff]
  exact and_iff_left fun _ _ => List.not_mem_nil

/-! ## Building the mapping -/

namespace Entry

/-- An entry as an entry of a value. -/
def built (e : Entry) : Value × Value := (.string e.key.content, .string e.value.content)

theorem length_linesParts (m : Mark) (es : List Entry) :
    (linesParts m es).length = 2 * es.length := by
  induction es generalizing m with
  | nil => rfl
  | cons e es ih =>
    rw [linesParts, List.length_append, ih, List.length_cons, parts, List.length_cons,
      List.length_singleton]
    omega

end Entry

namespace Document
variable {d : Document} {fuel depth aliases : Nat} {path : Path} {m since : Mark} {ps : List Part}

/-- A quoted scalar stands for its content. -/
theorem build_quoted (q : Quoted) :
    d.build (fuel + 1) depth path false ⟨⟨.scalar none q.content q.style, m⟩ :: ps, aliases⟩ =
      .ok (.string q.content, ⟨ps, aliases⟩) := by
  have hstyle : q.style ≠ .plain := by
    unfold Quoted.style
    split <;> simp
  simp [build, next, localTag?, buildScalar, resolveUntagged, hstyle, bind, Except.bind, pure,
    Except.pure]

/-- One entry of a mapping: its key must be a new one. -/
theorem buildEntries_entry (before : List Entry) (e : Entry) :
    d.buildEntries (fuel + 2) depth path false since (before.map Entry.built)
      ⟨e.parts m ++ ps, aliases⟩ =
    if e.key.content ∈ before.map (·.key.content) then
      failAt path since (.duplicateKey (.string e.key.content))
    else d.buildEntries (fuel + 1) depth path false since ((before ++ [e]).map Entry.built)
      ⟨ps, aliases⟩ := by
  have hsame : (before.map Entry.built).any (·.1.same (.string e.key.content)) =
      decide (e.key.content ∈ before.map (·.key.content)) := by
    induction before with
    | nil => rfl
    | cons b before ih =>
      have hb : (Entry.built b).1.same (.string e.key.content) =
          decide (e.key.content = b.key.content) := by
        rw [Entry.built, Value.same, beq_eq_decide, decide_eq_decide]
        exact eq_comm
      rw [List.map_cons, List.any_cons, ih, hb, List.map_cons, ← Bool.decide_or, decide_eq_decide,
        List.mem_cons]
  rw [Entry.parts, buildEntries]
  simp only [List.cons_append, List.nil_append, next, bind, Except.bind, build_quoted, hsame,
    decide_eq_true_eq, List.map_append, List.map_cons, List.map_nil]
  rfl

/-- Entries on lines: the first key that repeats one before it fails the mapping. -/
theorem buildEntries_lines (before es : List Entry) :
    d.buildEntries (fuel + 1 + es.length) depth path false since (before.map Entry.built)
      ⟨Entry.linesParts m es ++ ps, aliases⟩ =
    match firstRepeated? (before.map (·.key.content)) (es.map (·.key.content)) with
    | some key => failAt path since (.duplicateKey (.string key))
    | none => d.buildEntries (fuel + 1) depth path false since ((before ++ es).map Entry.built)
        ⟨ps, aliases⟩ := by
  induction es generalizing before m with
  | nil => simp [Entry.linesParts, firstRepeated?]
  | cons e es ih =>
    have hfuel : fuel + 1 + (e :: es).length = fuel + es.length + 2 := by
      rw [List.length_cons]
      omega
    have hfuel' : fuel + es.length + 1 = fuel + 1 + es.length := by omega
    rw [hfuel, Entry.linesParts, List.append_assoc, buildEntries_entry, List.map_cons,
      firstRepeated?]
    split
    · rfl
    · rw [hfuel', ih, List.map_append, List.append_assoc]
      rfl

theorem buildEntries_end (before : List (Value × Value)) :
    d.buildEntries (fuel + 1) depth path false since before ⟨⟨.collectionEnd, m⟩ :: ps, aliases⟩ =
      .ok (before, ⟨ps, aliases⟩) := by
  simp [buildEntries, next, bind, Except.bind, pure, Except.pure]

theorem buildEntries_failure {failure : Failure} (h : d.failure = some failure)
    (before : List (Value × Value)) :
    d.buildEntries (fuel + 1) depth path false since before ⟨[], aliases⟩ = .error failure := by
  simp [buildEntries, next, h, bind, Except.bind]

/-- A document that is one mapping. -/
theorem value_mapping (hparts : d.parts = ⟨.mappingStart none, since⟩ :: ps) :
    d.value =
      d.buildEntries ((depthLimit + 2) * (d.parts.length + 3) - 1) (depthLimit - 1) .root false since
        [] ⟨ps, 0⟩ >>= fun r =>
      match d.failure with
      | some failure => .error failure
      | none => .ok (.mapping r.1) := by
  obtain ⟨fuel, hfuel⟩ : ∃ fuel, (depthLimit + 2) * (d.parts.length + 3) = fuel + 1 :=
    ⟨(depthLimit + 2) * (d.parts.length + 3) - 1, by
      rw [depthLimit]
      omega⟩
  -- Building takes one unit of fuel and one level of depth before it comes to the entries.
  have hdepth : depthLimit = depthLimit - 1 + 1 := rfl
  rw [value, hfuel, hparts, Nat.add_sub_cancel, hdepth, Nat.add_sub_cancel]
  simp only [build, next, localTag?, bind, Except.bind]
  cases d.buildEntries fuel (depthLimit - 1) .root false since [] ⟨ps, 0⟩ with
  | error failure => rfl
  | ok r => rfl

/-- A document that starts with the entries of one mapping is built as far as their keys are new. -/
theorem value_of_lines (d : Document) (es : List Entry)
    (hparts : d.parts = ⟨.mappingStart none, since⟩ :: (Entry.linesParts m es ++ ps)) :
    ∃ fuel, d.value =
      (match firstRepeated? [] (es.map (·.key.content)) with
        | some key => failAt .root since (.duplicateKey (.string key))
        | none => d.buildEntries (fuel + 1) (depthLimit - 1) .root false since (es.map Entry.built)
            ⟨ps, 0⟩) >>= fun r =>
      match d.failure with
      | some failure => .error failure
      | none => .ok (.mapping r.1) := by
  have hlen : d.parts.length = 2 * es.length + ps.length + 1 := by
    rw [hparts, List.length_cons, List.length_append, Entry.length_linesParts]
  obtain ⟨fuel, hfuel⟩ : ∃ fuel,
      (depthLimit + 2) * (d.parts.length + 3) - 1 = fuel + 1 + es.length :=
    ⟨(depthLimit + 2) * (d.parts.length + 3) - 2 - es.length, by
      rw [depthLimit]
      omega⟩
  refine ⟨fuel, ?_⟩
  rw [value_mapping hparts, hfuel]
  exact congrArg (· >>= _) (buildEntries_lines [] es)

end Document

section
variable (es : List Entry) (since m stop : Mark) (failure : Failure)

/-- The failure of a repeated key. -/
def repeated (since : Mark) (key : Text) : Failure :=
  .value (.duplicateKey (.string key)) Path.root.text since

/-- A flat mapping stands for its entries, unless a key repeats. -/
theorem value_lines :
    Document.value ⟨⟨.mappingStart none, since⟩ :: Entry.linesParts m es ++ [⟨.collectionEnd, stop⟩],
      [], none⟩ =
    match firstRepeated? [] (es.map (·.key.content)) with
    | some key => .error (repeated since key)
    | none => .ok (.mapping (es.map Entry.built)) := by
  let d : Document :=
    ⟨⟨.mappingStart none, since⟩ :: Entry.linesParts m es ++ [⟨.collectionEnd, stop⟩], [], none⟩
  obtain ⟨fuel, hvalue⟩ := d.value_of_lines es rfl
  rw [hvalue]
  cases firstRepeated? [] (es.map (·.key.content)) with
  | some key => rfl
  | none =>
    simp only [Document.buildEntries_end]
    rfl

/-- A flat mapping that a failure cuts off has that failure, unless a key repeats before. -/
theorem value_lines_of_failure :
    Document.value ⟨⟨.mappingStart none, since⟩ :: Entry.linesParts m es, [], some failure⟩ =
    match firstRepeated? [] (es.map (·.key.content)) with
    | some key => .error (repeated since key)
    | none => .error failure := by
  let d : Document := ⟨⟨.mappingStart none, since⟩ :: Entry.linesParts m es, [], some failure⟩
  have hparts : d.parts = ⟨.mappingStart none, since⟩ :: (Entry.linesParts m es ++ []) := by
    rw [List.append_nil]
  obtain ⟨fuel, hvalue⟩ := d.value_of_lines es hparts
  rw [hvalue]
  cases firstRepeated? [] (es.map (·.key.content)) with
  | some key => rfl
  | none =>
    have hfailure : d.failure = some failure := rfl
    simp only [Document.buildEntries_failure hfailure]
    rfl

end

/-! ## The verdict -/

/-- What keeps a text from being YAML. -/
def failure? (text : Text) : Option Failure :=
  if (Text.trim text).isEmpty then none else firstFailure? (documents text)

/-- A text is YAML unless something keeps it from being so. -/
theorem check_eq_ok_iff {text : Text} : check text = .ok () ↔ failure? text = none := by
  unfold check failure?
  split
  · simp
  · cases firstFailure? (documents text) <;> simp

/-- A text that starts with a quote is not blank. -/
theorem failure?_of_head {double : Bool} {text : Text} (h : text.head? = some (quoteOf double)) :
    failure? text = firstFailure? (documents text) := by
  cases text with
  | nil => cases h
  | cons c rest =>
    have hblank : Text.isBlank c = false := by
      obtain rfl := Option.some.inj h
      cases double <;> rfl
    have htrim : Text.trim (c :: rest) ≠ [] := by
      rw [Text.trim, Text.trimStart, List.dropWhile_cons_of_neg (by simp [hblank]), Text.trimEnd]
      intro hnil
      have hall := List.dropWhile_eq_nil_iff.mp (List.reverse_eq_nil_iff.mp hnil)
      rw [hall c (by simp)] at hblank
      cases hblank
    rw [failure?, if_neg (by simpa using htrim)]

/-- **What is wrong with a flat mapping** is the first key that repeats, if one does. -/
theorem failure?_lines (es : List Entry) :
    failure? (Entry.linesText es) =
      (firstRepeated? [] (es.map (·.key.content))).map (repeated .origin) := by
  cases es with
  | nil => rfl
  | cons e es =>
    have hes : e :: es ≠ [] := List.cons_ne_nil e es
    have hhead : (Entry.linesText (e :: es)).head? = some (quoteOf e.key.double) := rfl
    rw [failure?_of_head hhead, documents_lines hes, firstFailure?, value_lines]
    cases firstRepeated? [] ((e :: es).map (·.key.content)) <;> rfl

/-- **What is wrong with a word directly after the value of an entry**: a key repeats up to there,
or the word is a fault. -/
theorem failure?_of_word (es : List Entry) (e : Entry) {rest : Text}
    (hr : ∀ c ∈ rest, isAllowed c = true) :
    ∃ f, failure? (Entry.linesText es ++ (e.text ++ 'C' :: rest)) =
      some (match firstRepeated? [] ((es ++ [e]).map (·.key.content)) with
        | some key => repeated .origin key
        | none => .fault f) := by
  obtain ⟨f, hdocuments⟩ := documents_of_word es e hr
  obtain ⟨double, hhead⟩ := Entry.exists_head?_eq es e ('C' :: rest)
  refine ⟨f, ?_⟩
  rw [failure?_of_head hhead, hdocuments, firstFailure?, value_lines_of_failure]
  cases firstRepeated? [] ((es ++ [e]).map (·.key.content)) <;> rfl

end GraphLint.Yaml
