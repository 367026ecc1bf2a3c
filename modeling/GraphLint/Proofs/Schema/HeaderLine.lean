import GraphLint.Proofs.Schema.Block
/-! # Where a missing field is reported

A field that a block lacks is reported at the header of the block, and the header is looked for twice.
The block is the first whose header stands at the start of its line with a key line under it; the line
of the report is the first that is the header up to white space, wherever it stands and whatever
follows it.  The second search finds the header of the block or a line above it
(`childFinding_headerLine`), and one above it as soon as there is one: the header of a block within
another block, or of one that holds nothing. -/
namespace GraphLint.Schema

variable {name : String} {line head : Text} {ls body : List Text} {i j : Nat}

/-- A bare header is its name and a colon up to white space, if the name does not start with any. -/
theorem IsBareHeader.trim_eq (h : IsBareHeader name line)
    (hname : ∀ c ∈ (header name).head?, Text.isBlank c = false) :
    Text.trim line = header name := by
  obtain ⟨w, rfl, hwhite⟩ := h.exists_eq_append
  have hw : ∀ c ∈ w, Text.isBlank c = true := by
    intro c hc
    rcases hwhite c hc with rfl | rfl | rfl <;> decide
  have hstart : Text.trimStart (header name ++ w) = header name ++ w := by
    unfold Text.trimStart
    cases hheader : header name with
    | nil => exact absurd hheader (by simp [header])
    | cons c t =>
      have hc := hname c (by rw [hheader]; rfl)
      rw [List.cons_append, List.dropWhile_cons_of_neg (by simp [hc])]
  have hend : (header name).reverse = ':' :: name.toList.reverse := by simp [header]
  have hcolon : ¬ Text.isBlank ':' = true := by decide
  rw [Text.trim, hstart, Text.trimEnd, List.reverse_append,
    List.dropWhile_append_of_pos fun c hc => hw c (List.mem_reverse.mp hc), hend,
    List.dropWhile_cons_of_neg hcolon, ← hend, List.reverse_reverse]

/-- Line `j` is the first that is a name and a colon up to white space. -/
structure IsFirstNamed (name : String) (ls : List Text) (j : Nat) : Prop where
  named : ∃ line, ls[j]? = some line ∧ Text.trim line = header name
  first : ∀ k line, k < j → ls[k]? = some line → Text.trim line ≠ header name

theorem IsFirstNamed.le (h : IsFirstNamed name ls j) (hline : ls[i]? = some line)
    (htrim : Text.trim line = header name) : j ≤ i :=
  Nat.le_of_not_lt fun hlt => h.first i line hlt hline htrim

/-- **The search for a header finds the first line that is one** up to white space. -/
theorem isFirstNamed_headerLine (hline : ls[i]? = some line)
    (htrim : Text.trim line = header name) : IsFirstNamed name ls (headerLine name ls) := by
  unfold headerLine
  cases hfind : ls.findIdx? fun line => Text.trim line == header name with
  | none =>
    have hnone := List.findIdx?_eq_none_iff.mp hfind line (List.mem_of_getElem? hline)
    simp [htrim] at hnone
  | some j =>
    obtain ⟨hj, hnamed, hfirst⟩ := List.findIdx?_eq_some_iff_getElem.mp hfind
    refine ⟨⟨ls[j], List.getElem?_eq_getElem hj, by simpa using hnamed⟩, ?_⟩
    intro k line hk hline
    obtain ⟨hlt, rfl⟩ := List.getElem?_eq_some_iff.mp hline
    simpa using hfirst k hk

/-- In an addressable text the whole of a line tells which line it is. -/
theorem fullLine_ofNat_inj {text : Text} (ht : text.Addressable) (hi : i < (Text.lines text).length)
    (hj : j < (Text.lines text).length) :
    Range.fullLine text (.ofNat i) = Range.fullLine text (.ofNat j) ↔ i = j := by
  refine ⟨fun h => ?_, fun h => h ▸ rfl⟩
  have hline : UInt32.ofNat i = UInt32.ofNat j := congrArg (·.start.line) h
  have htoNat := congrArg UInt32.toNat hline
  rwa [UInt32.toNat_ofNat_of_lt' (Nat.lt_trans hi ht.lines_lt),
    UInt32.toNat_ofNat_of_lt' (Nat.lt_trans hj ht.lines_lt)] at htoNat

/-- How the range of a report about a block whose header is line `i` goes with that line: it is the
whole of line `j`. -/
structure HeaderPlace (b : Block) (text : Text) (r : Range) (i j : Nat) : Prop where
  range_eq : r = .fullLine text (.ofNat j)
  found : IsFirstNamed b.name (Text.lines text) j
  /-- No line below the header is reported. -/
  le : j ≤ i
  /-- A line above it opens no block. -/
  astray : j < i → ¬ Opens b.name (Text.lines text) j
  /-- The header is reported exactly if no line above it is one up to white space. -/
  eq_iff : j = i ↔ ∀ k line, k < i → (Text.lines text)[k]? = some line →
    Text.trim line ≠ header b.name
  /-- If it is not, its range is another one. -/
  range_eq_iff : text.Addressable → (r = .fullLine text (.ofNat i) ↔ j = i)

section
variable {b : Block} {config : Config} {text : Text} {d : Diagnostic}

/-- **A missing field is reported at the first line that is the header of its block up to white
space.**  It is the header itself exactly if no line above it looks like it. -/
theorem childFinding_headerLine (hb : b ∈ blocks) (hd : d ∈ check config text)
    (hrule : d.rule = b.childRule) : ∃ i head body j,
      IsFirstBlock b.name (Text.lines text) i head body ∧ b.IsMissingIn (head :: body) ∧
        HeaderPlace b text d.range i j := by
  have hchild := (mem_findings_and_rule_eq_iff hb).mp ⟨(mem_check_iff.mp hd).1, hrule⟩
  obtain ⟨⟨i, head, body, hblock, hmissing⟩, rfl⟩ :=
    (Block.mem_childFindings_iff (isPlain_of_mem_blocks hb)).mp hchild
  have hblank : ∀ c ∈ (header b.name).head?, Text.isBlank c = false := by
    simp only [blocks, List.mem_cons, List.not_mem_nil, or_false] at hb
    rintro c hc
    rcases hb with rfl | rfl
    · obtain rfl : 'm' = c := Option.some.inj hc
      decide
    · obtain rfl : 's' = c := Option.some.inj hc
      decide
  have htrim := hblock.header.trim_eq hblank
  have hfound := isFirstNamed_headerLine hblock.head_eq htrim
  have hle := hfound.le hblock.head_eq htrim
  have hlt : i < (Text.lines text).length := (List.getElem?_eq_some_iff.mp hblock.head_eq).1
  refine ⟨i, head, body, headerLine b.name (Text.lines text), hblock, hmissing, ?_⟩
  constructor
  case range_eq => rfl
  case found => exact hfound
  case le => exact hle
  case astray => exact fun h => hblock.first _ h
  case eq_iff =>
    constructor
    · intro heq
      rw [← heq]
      exact hfound.first
    · intro hnone
      obtain ⟨line, hline, hnamed⟩ := hfound.named
      exact Nat.le_antisymm hle (Nat.le_of_not_lt fun h => hnone _ line h hline hnamed)
  case range_eq_iff =>
    exact fun ht => fullLine_ofNat_inj ht (Nat.lt_of_le_of_lt hle hlt) hlt

end

/-- A graph whose only resource has a name of its own, and that has none itself. -/
def namelessGraph : Text :=
  ["apiVersion: kro.run/v1alpha1", "kind: ResourceGraphDefinition", "spec:", "  resources:",
    "    web:", "      metadata:", "        name: web", "metadata:", "  labels:",
    "    app: web"].flatMap (·.toList ++ ['\n'])

/-- The finding about the graph. -/
def namelessFinding : Diagnostic :=
  finding (.fullLine namelessGraph 5) "schema::metadata-name" "'metadata' must contain 'name' field"
    "Add '  name: <graph-name>' under 'metadata:'"

theorem childFinding_headerLine_namelessGraph :
    check {} namelessGraph = [namelessFinding] ∧ ∃ i head body j,
      IsFirstBlock "metadata" (Text.lines namelessGraph) i head body ∧
        metadata.IsMissingIn (head :: body) ∧
        HeaderPlace metadata namelessGraph namelessFinding.range i j := by
  have hcheck : check {} namelessGraph = [namelessFinding] := by decide +kernel
  have hmem : namelessFinding ∈ check {} namelessGraph := hcheck ▸ List.mem_cons_self
  exact ⟨hcheck, childFinding_headerLine (b := metadata) List.mem_cons_self hmem rfl⟩

/-- The finding stands on a line that has a name under it, and not on the header of the block. -/
theorem namelessGraph_misplaced :
    check {} namelessGraph = [namelessFinding] ∧
      IsFirstBlock "metadata" (Text.lines namelessGraph) 7 "metadata:".toList
        ["  labels:".toList, "    app: web".toList] ∧
      namelessFinding.range ≠ .fullLine namelessGraph 7 ∧
      (Text.lines namelessGraph)[5]? = some "      metadata:".toList ∧
      (Text.lines namelessGraph)[6]? = some "        name: web".toList := by
  decide +kernel

end GraphLint.Schema
