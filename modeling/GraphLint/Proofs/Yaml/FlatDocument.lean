import GraphLint.Proofs.Yaml.FlatTokens
import GraphLint.Yaml.Verdict
/-! # The document of a flat mapping

The tokens of a flat mapping are read in a few steps that say all there is to say of the reader: two
open the document and the mapping, two read an entry, and one closes the mapping.  While entries are
read the reader is the same but for its tokens (`Reader.inRoot`), and the draft is the list of the
parts so far (`Draft.ofParts`), so the steps for all entries follow by induction
(`readDocuments_lines`).

Where the tokens are blocked the mapping is cut off: its document keeps the parts before that, and
the fault (`documents_of_word`). -/
namespace GraphLint.Yaml

namespace Reader
variable {ts : List Token} {ending : Except Fault Mark} {since m : Mark} {content : Text}
  {style : Style} {t : Token}

/-- A reader inside a mapping that is the root of its document. -/
def inRoot (expected : Expected) (list : List Token) (ending : Except Fault Mark) : Reader :=
  ⟨⟨list, ending⟩, expected, [.documentEnd], Handle.defaults⟩

/-- The event of a scalar. -/
def scalarEvent (content : Text) (style : Style) (m : Mark) : Event :=
  ⟨.scalar ⟨none, none⟩ content style, m⟩

/-! ## The steps of the reader -/

theorem step_documentStart :
    (Reader.start ⟨⟨.blockMappingStart, m, m⟩ :: ts, ending⟩).step =
      .ok (⟨.documentStart, m⟩, inRoot .root (⟨.blockMappingStart, m, m⟩ :: ts) ending) := by
  simp [start, inRoot, step, readDocument, peek, withDefaults, after, expect, bind, Except.bind,
    pure, Except.pure]

theorem step_mappingStart :
    (inRoot .root (⟨.blockMappingStart, m, m⟩ :: ts) ending).step =
      .ok (⟨.mappingStart ⟨none, none⟩, m⟩, inRoot (.blockKey m) ts ending) := by
  simp [inRoot, step, readNode, readProperties, peek, skip, resolveTag, expect, take, bind,
    Except.bind, pure, Except.pure]

theorem step_key (ht : t.kind = .scalar content style) :
    (inRoot (.blockKey since) (⟨.key, m, m⟩ :: t :: ts) ending).step =
      .ok (scalarEvent content style t.start, inRoot (.blockValue since) ts ending) := by
  simp [inRoot, step, readBlockKey, readBlockNode, peek, skip, after, readNode, readProperties, ht,
    resolveTag, resume, take, scalarEvent, bind, Except.bind, pure, Except.pure]

theorem step_value {n : Mark} (ht : t.kind = .scalar content style) :
    (inRoot (.blockValue since) (⟨.value, m, n⟩ :: t :: ts) ending).step =
      .ok (scalarEvent content style t.start, inRoot (.blockKey since) ts ending) := by
  simp [inRoot, step, readBlockValue, readBlockNode, peek, skip, after, readNode, readProperties,
    ht, resolveTag, resume, take, scalarEvent, bind, Except.bind, pure, Except.pure]

theorem step_mappingEnd :
    (inRoot (.blockKey since) (⟨.blockEnd, m, m⟩ :: ts) ending).step =
      .ok (⟨.mappingEnd, m⟩, ⟨⟨ts, ending⟩, .documentEnd, [], Handle.defaults⟩) := by
  simp [inRoot, step, readBlockKey, peek, skip, resume, take, bind, Except.bind]

/-- Where a key is expected, blocked tokens are a fault. -/
theorem step_of_blocked {tokens : Tokens} (h : tokens.Blocked) :
    ∃ f, (inRoot (.blockKey since) tokens.list tokens.ending).step = .error f := by
  cases h with
  | fault f => exact ⟨f, rfl⟩
  | scalar t ts ending content style ht =>
    exact ⟨_, by simp [inRoot, step, readBlockKey, peek, ht, bind, Except.bind]; rfl⟩

end Reader

/-! ## The document -/

/-- A draft without anchors. -/
def Draft.ofParts (parts : List Part) : Draft := ⟨parts.reverse, parts.length, [], []⟩

theorem Draft.add_ofParts (parts : List Part) (kind : PartKind) (m : Mark) :
    (Draft.ofParts parts).add none kind m = Draft.ofParts (parts ++ [⟨kind, m⟩]) := by
  simp [Draft.add, Draft.ofParts]

theorem Draft.close_ofParts (parts : List Part) (failure : Option Failure) :
    (Draft.ofParts parts).close failure = ⟨parts, [], failure⟩ := by
  simp [Draft.close, Draft.ofParts]

namespace Entry

/-- The parts of an entry that starts at a mark. -/
def parts (e : Entry) (m : Mark) : List Part :=
  [⟨.scalar none e.key.content e.key.style, m⟩,
    ⟨.scalar none e.value.content e.value.style, m.forward (e.key.width + 2)⟩]

/-- The parts of entries on lines, the first of which starts at a mark. -/
def linesParts : Mark → List Entry → List Part
  | _, [] => []
  | m, e :: es => e.parts m ++ linesParts ((e.stop m).nextLine 1) es

end Entry

section
variable {fuel : Nat} {first : Bool} {parts : List Part} {es : List Entry} {since m : Mark}
  {ts : List Token} {ending : Except Fault Mark}
open Reader

/-- An event in the midst of a document. -/
theorem readDocuments_of_step {r r' : Reader} {draft draft' : Draft} {event : Event}
    (hstep : r.step = .ok (event, r')) (hextend : draft.extend event = .more draft') :
    readDocuments (fuel + 1) first draft r = readDocuments fuel first draft' r' := by
  rw [readDocuments, hstep]
  simp only [hextend]

/-- A fault in the midst of a document. -/
theorem readDocuments_of_fault {r : Reader} {f : Fault} (hstep : r.step = .error f) :
    readDocuments (fuel + 1) first (.ofParts parts) r = [⟨parts, [], some (.fault f)⟩] := by
  rw [readDocuments, hstep]
  simp only [Draft.close_ofParts]

theorem extend_scalarEvent (content : Text) (style : Style) :
    (Draft.ofParts parts).extend (scalarEvent content style m) =
      .more (.ofParts (parts ++ [⟨.scalar none content style, m⟩])) :=
  congrArg Progress.more (Draft.add_ofParts _ _ _)

/-- An entry is read in two steps. -/
theorem readDocuments_entry (e : Entry) :
    readDocuments (fuel + 2) first (.ofParts parts)
      (inRoot (.blockKey since) (e.tokens m ++ ts) ending) =
    readDocuments fuel first (.ofParts (parts ++ e.parts m))
      (inRoot (.blockKey since) ts ending) := by
  simp only [Entry.tokens, List.cons_append, List.nil_append]
  rw [readDocuments_of_step (step_key rfl) (extend_scalarEvent _ _),
    readDocuments_of_step (step_value rfl) (extend_scalarEvent _ _)]
  simp [Entry.parts, Quoted.token]

/-- Entries on lines are read one after the other. -/
theorem readDocuments_lines :
    readDocuments (fuel + 2 * es.length) first (.ofParts parts)
      (inRoot (.blockKey since) (Entry.linesTokens false m es ++ ts) ending) =
    readDocuments fuel first (.ofParts (parts ++ Entry.linesParts m es))
      (inRoot (.blockKey since) ts ending) := by
  induction es generalizing parts m with
  | nil => simp [Entry.linesTokens, Entry.linesParts]
  | cons e es ih =>
    have hfuel : fuel + 2 * (e :: es).length = fuel + 2 * es.length + 2 := by
      rw [List.length_cons]
      omega
    have htokens : Entry.linesTokens false m (e :: es) ++ ts = e.tokens m ++
        (Entry.linesTokens false ((e.stop m).nextLine 1) es ++ ts) := by
      simp [Entry.linesTokens, Entry.opening]
    rw [hfuel, htokens, readDocuments_entry, ih]
    simp [Entry.linesParts]

/-- A flat mapping starts with two events. -/
theorem readDocuments_opening :
    readDocuments (fuel + 2) first (.ofParts [])
      (.start ⟨⟨.blockMappingStart, m, m⟩ :: ts, ending⟩) =
    readDocuments fuel first (.ofParts [⟨.mappingStart none, m⟩])
      (inRoot (.blockKey m) ts ending) := by
  rw [readDocuments_of_step step_documentStart rfl]
  exact readDocuments_of_step step_mappingStart rfl

/-- The end of a flat mapping is the end of its document, and of the stream. -/
theorem readDocuments_end {stop : Mark} :
    readDocuments (fuel + 3) first (.ofParts parts)
      (inRoot (.blockKey since) [⟨.blockEnd, m, m⟩] (.ok stop)) =
    [⟨parts ++ [⟨.collectionEnd, m⟩], [], none⟩] := by
  rw [readDocuments_of_step step_mappingEnd (congrArg Progress.more (Draft.add_ofParts _ _ _))]
  simp [readDocuments, Reader.step, readDocumentEnd, Reader.peek, Draft.extend, Draft.close_ofParts,
    readDocument, skipDocumentEnds, take, Except.map, bind, Except.bind, pure, Except.pure]

end

theorem Entry.two_mul_length_le (first : Bool) (m : Mark) (es : List Entry) :
    2 * es.length ≤ (Entry.linesTokens first m es).length := by
  induction es generalizing first m with
  | nil => exact Nat.zero_le _
  | cons e es ih =>
    have := ih false ((e.stop m).nextLine 1)
    simp only [Entry.linesTokens, Entry.tokens, List.length_append, List.length_cons]
    omega

/-- Before the first entry of all stands the token that opens the mapping. -/
theorem Entry.linesTokens_true {es : List Entry} (hes : es ≠ []) (m : Mark) :
    Entry.linesTokens true m es = ⟨.blockMappingStart, m, m⟩ :: Entry.linesTokens false m es := by
  cases es with
  | nil => exact absurd rfl hes
  | cons e es => rfl

/-- What is read of a stream that starts with a flat mapping. -/
theorem documents_of_ofText {text : Text} {es : List Entry} {ts : Tokens} (hes : es ≠ [])
    (h : Tokens.ofText text = ts.prepend (Entry.linesTokens true .origin es)) :
    ∃ fuel, 3 ≤ fuel ∧ documents text =
      readDocuments fuel true
        (.ofParts (⟨.mappingStart none, .origin⟩ :: Entry.linesParts .origin es))
        (Reader.inRoot (.blockKey .origin) ts.list ts.ending) := by
  have hlen := Entry.two_mul_length_le true .origin es
  have htokens : (ts.prepend (Entry.linesTokens true .origin es)).list.length =
      (Entry.linesTokens true .origin es).length + ts.list.length := List.length_append
  obtain ⟨fuel, hfuel⟩ : ∃ fuel,
      4 * (ts.prepend (Entry.linesTokens true .origin es)).list.length + 8 =
        fuel + 3 + 2 * es.length + 2 :=
    ⟨4 * (ts.prepend (Entry.linesTokens true .origin es)).list.length + 3 - 2 * es.length, by omega⟩
  refine ⟨fuel + 3, Nat.le_add_left _ _, ?_⟩
  rw [documents, h, hfuel, Tokens.prepend, Entry.linesTokens_true hes, List.cons_append]
  exact readDocuments_opening.trans readDocuments_lines

/-- **The document of a flat mapping** has a part for every scalar. -/
theorem documents_lines {es : List Entry} (hes : es ≠ []) :
    documents (Entry.linesText es) =
      [⟨⟨.mappingStart none, .origin⟩ :: Entry.linesParts .origin es ++
        [⟨.collectionEnd, Entry.linesStop .origin es⟩], [], none⟩] := by
  obtain ⟨fuel, hfuel, hdocuments⟩ := documents_of_ofText hes (Tokens.ofText_lines hes)
  obtain ⟨fuel, rfl⟩ := Nat.exists_eq_add_of_le' hfuel
  rw [hdocuments, readDocuments_end]

/-- **A word directly after the value of an entry** is a fault where the next key would stand. -/
theorem documents_of_word (es : List Entry) (e : Entry) {rest : Text}
    (hr : ∀ c ∈ rest, isAllowed c = true) :
    ∃ f, documents (Entry.linesText es ++ (e.text ++ 'C' :: rest)) =
      [⟨⟨.mappingStart none, .origin⟩ :: Entry.linesParts .origin (es ++ [e]), [],
        some (.fault f)⟩] := by
  obtain ⟨ts, hblocked, htokens⟩ := Tokens.exists_ofText_eq_of_word es e hr
  have hes : es ++ [e] ≠ [] := by simp
  obtain ⟨fuel, hfuel, hdocuments⟩ := documents_of_ofText hes htokens
  obtain ⟨fuel, rfl⟩ := Nat.exists_eq_add_of_le' hfuel
  obtain ⟨f, hstep⟩ := Reader.step_of_blocked hblocked
  exact ⟨f, by rw [hdocuments, readDocuments_of_fault hstep]⟩

end GraphLint.Yaml
