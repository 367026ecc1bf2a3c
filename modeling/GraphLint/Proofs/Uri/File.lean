import GraphLint.Proofs.Files.Tree
import GraphLint.Proofs.Uri.Percent
import GraphLint.Uri.Read
import Mathlib.Data.List.TakeWhile
/-! # The URI of a file

The file at a place has a URI, which is its absolute path with the names percent-encoded
(`fileText`).  A writer may encode more characters than it has to; what it must encode, and what it
must leave alone so that an extension can be seen, is `IsFileSet`.

Such a URI is in normal form: reading goes through it one character at a time and changes nothing
(`read_fileText`), since none of its segments is a dot segment or looks like a drive.  The path that
it names is the path of the place (`exists_filePath?_ofPlace`). -/
namespace GraphLint.Uri
open Files

/-! ## Segments -/

/-- Whether a character means nothing but itself in the path of a file URI: it is encoded no
further, separates nothing, ends nothing, and makes no drive letter. -/
def isPlain (c : Char) : Bool :=
  !(pathSet c || c == '/' || c == '\\' || c == ':' || c == '|')

/-- Which characters the names in a file URI may have encoded. -/
structure IsFileSet (set : EncodeSet) : Prop where
  /-- All that would not be plain is encoded. -/
  isPlain_of_not : ∀ c, set c = false → isPlain c = true
  /-- What is encoded can be told from what is not. -/
  percent : set '%' = true
  /-- Extensions stay as they are. -/
  keeps : ∀ c, c.isAlphanum = true ∨ c = '.' → set c = false

section Plain
variable {c : Char} (h : isPlain c = true)
include h

theorem encodeChar_of_isPlain : encodeChar pathSet c = [c] := by
  rw [isPlain, Bool.not_eq_true'] at h
  simp only [Bool.or_eq_false_iff] at h
  rw [encodeChar, h.1.1.1.1]
  rfl

theorem ne_of_isPlain : c ≠ '/' ∧ c ≠ '\\' ∧ c ≠ ':' ∧ c ≠ '|' ∧ c ≠ '?' ∧ c ≠ '#' := by
  refine ⟨?_, ?_, ?_, ?_, ?_, ?_⟩ <;> rintro rfl <;> exact absurd h (by decide)

theorem isMargin_of_isPlain : isMargin c = false := by
  rw [Bool.eq_false_iff]
  intro hmargin
  have hle : c.toNat ≤ 0x20 := of_decide_eq_true hmargin
  have hpath : pathSet c = true := by
    rcases Nat.lt_or_eq_of_le hle with hlt | heq
    · simp [pathSet, fragmentSet, controlSet, hlt]
    · have hspace : c = ' ' := Char.toNat_inj.mp heq
      rw [hspace]
      rfl
  rw [isPlain, hpath] at h
  cases h

end Plain

theorem isPlain_hexDigit {n : Nat} (h : n < 16) : isPlain (hexDigit n) = true := by
  have hall : ∀ n < 16, isPlain (hexDigit n) = true := by decide
  exact hall n h

/-- Everything is encoded but letters, digits, and four characters that no URI needs to encode. -/
def unreservedSet : EncodeSet := fun c =>
  !(c.isAlphanum || c == '-' || c == '.' || c == '_' || c == '~')

theorem isPlain_of_unreserved {c : Char} (h : unreservedSet c = false) : isPlain c = true := by
  have hascii : ∀ n < 0x80,
      unreservedSet (Char.ofNat n) = false → isPlain (Char.ofNat n) = true := by decide
  have hlt : c.toNat < 0x80 := by
    simp only [unreservedSet, Bool.not_eq_false', Bool.or_eq_true, beq_iff_eq] at h
    rcases h with (((h | rfl) | rfl) | rfl) | rfl
    · unfold Char.isAlphanum Char.isAlpha Char.isUpper Char.isLower Char.isDigit at h
      simp only [Bool.or_eq_true, Bool.and_eq_true, decide_eq_true_eq, ge_iff_le,
        UInt32.le_iff_toNat_le] at h
      change ((65 ≤ c.toNat ∧ c.toNat ≤ 90) ∨ (97 ≤ c.toNat ∧ c.toNat ≤ 122)) ∨
        (48 ≤ c.toNat ∧ c.toNat ≤ 57) at h
      omega
    all_goals decide
  rw [← Char.ofNat_toNat c] at h ⊢
  exact hascii c.toNat hlt h

theorem isFileSet_unreservedSet : IsFileSet unreservedSet where
  isPlain_of_not _ := isPlain_of_unreserved
  percent := rfl
  keeps c h := by
    rcases h with h | rfl
    · rw [unreservedSet, h]
      rfl
    · rfl

/-- A segment of a file URI in normal form. -/
structure IsSegment (s : Text) : Prop where
  ne_nil : s ≠ []
  plain : ∀ c ∈ s, isPlain c = true
  singleDot : isSingleDot s = false
  doubleDot : isDoubleDot s = false

section Encoded
variable {set : EncodeSet} (hset : IsFileSet set)
include hset

theorem isPlain_of_mem_encode {t : Text} {c : Char} (h : c ∈ encode set t) : isPlain c = true := by
  obtain ⟨x, -, hc⟩ := List.mem_flatMap.mp h
  unfold encodeChar at hc
  split at hc
  · obtain ⟨o, -, hc⟩ := List.mem_flatMap.mp hc
    have hlt := o.toNat_lt
    simp only [encodeOctet, List.mem_cons, List.not_mem_nil, or_false] at hc
    rcases hc with rfl | rfl | rfl
    · rfl
    · exact isPlain_hexDigit (by omega)
    · exact isPlain_hexDigit (Nat.mod_lt _ (by decide))
  · rename_i hx
    rw [List.mem_singleton.mp hc]
    exact hset.isPlain_of_not x (Bool.eq_false_iff.mpr hx)

/-- **A name is written as a segment in normal form.** -/
theorem isSegment_encode {name : Text} (h : IsName name) : IsSegment (encode set name) where
  ne_nil hnil := by
    have hname := decode_encode hset.percent name
    rw [hnil, decode] at hname
    exact h.ne_nil (Text.encode_injective hname.symm)
  plain _ hc := isPlain_of_mem_encode hset hc
  singleDot := by
    rw [Bool.eq_false_iff]
    intro hdot
    have hname := decode_encode hset.percent name
    rw [decode_of_isSingleDot hdot] at hname
    exact h.ne_here (Text.encode_injective hname.symm)
  doubleDot := by
    rw [Bool.eq_false_iff]
    intro hdot
    have hname := decode_encode hset.percent name
    rw [decode_of_isDoubleDot hdot] at hname
    exact h.ne_up (Text.encode_injective hname.symm)

end Encoded

/-! ## Reading -/

theorem readSegments_append {s : Text} (h : ∀ c ∈ s, isPlain c = true) (done : List Text)
    (segment t : Text) :
    readSegments true true done segment (s ++ t) =
      readSegments true true done (segment ++ s) t := by
  induction s generalizing segment with
  | nil => rw [List.nil_append, List.append_nil]
  | cons c s ih =>
    obtain ⟨hc, hs⟩ := List.forall_mem_cons.mp h
    obtain ⟨hslash, hback, -, -, hquery, hhash⟩ := ne_of_isPlain hc
    rw [List.cons_append, readSegments, if_neg (by simp [isSlash, hslash, hback]),
      if_neg (by simp [endsPath, hquery, hhash]), encodeChar_of_isPlain hc, ih hs,
      List.append_assoc, List.singleton_append]

/-- A segment without a colon and a bar is no drive, at the start of the path either. -/
theorem named_of_isSegment {s : Text} (h : IsSegment s) (done : List Text) :
    named true done s = done ++ [s] := by
  unfold named
  split
  · rename_i c d heq
    have hdone : done = [] := by simpa using heq
    obtain ⟨-, -, hcolon, hbar, -, -⟩ := ne_of_isPlain (h.plain d (by simp))
    rw [if_neg (by simp [isDriveLetter, hcolon, hbar]), hdone, List.nil_append]
  · rename_i c rest heq
    exact absurd (h.plain ':' (by simp)) (by decide)
  · rfl

theorem commit_of_isSegment {s : Text} (h : IsSegment s) (done : List Text) (slash : Bool) :
    commit true done s slash = done ++ [s] := by
  rw [commit, h.doubleDot, h.singleDot, if_neg Bool.false_ne_true, if_neg Bool.false_ne_true,
    named_of_isSegment h]

theorem readSegments_segments {s : Text} {rest : List Text} (h : ∀ x ∈ s :: rest, IsSegment x)
    (done : List Text) : readSegments true true done [] (s ++ rest.flatMap ('/' :: ·)) =
      (done ++ s :: rest, []) := by
  induction rest generalizing done s with
  | nil =>
    have hs := h s List.mem_cons_self
    rw [List.flatMap_nil, readSegments_append hs.plain, List.nil_append, readSegments,
      commit_of_isSegment hs]
  | cons next rest ih =>
    obtain ⟨hs, hrest⟩ := List.forall_mem_cons.mp h
    have hslash : isSlash true '/' = true := rfl
    rw [List.flatMap_cons, readSegments_append hs.plain, List.nil_append, List.cons_append,
      readSegments, if_pos hslash, commit_of_isSegment hs, ih hrest, List.append_assoc,
      List.singleton_append]

theorem strip_eq_self {t : Text} (h : ∀ c ∈ t, isMargin c = false) : strip t = t := by
  have hdrop : ∀ s : Text, (∀ c ∈ s, isMargin c = false) → s.dropWhile isMargin = s := by
    intro s hs
    rw [List.dropWhile_eq_self_iff]
    intro hlength
    simp [hs _ (List.getElem_mem hlength)]
  rw [strip, hdrop t h, hdrop t.reverse fun c hc => h c (List.mem_reverse.mp hc),
    List.reverse_reverse, List.filter_eq_self]
  intro c hc
  have hnot := h c hc
  rw [Bool.not_eq_true', Bool.eq_false_iff]
  intro hignored
  rw [isIgnored, Bool.or_eq_true, Bool.or_eq_true, beq_iff_eq, beq_iff_eq, beq_iff_eq] at hignored
  rcases hignored with (rfl | rfl) | rfl <;> exact absurd hnot (by decide)

/-! ## Files -/

/-- The URI of the file at a place as it is written, where the characters of a set are encoded. -/
def fileText (set : EncodeSet) (names : List Text) : Text :=
  "file://".toList ++ absolute (names.map (encode set))

/-- The URI of the file at a place, in normal form. -/
def ofPlace (set : EncodeSet) (names : List Text) : Uri where
  scheme := "file".toList
  authority := some ⟨[], [], [], none⟩
  path := .segments (if names = [] then [[]] else names.map (encode set))
  query := none
  fragment := none

/-- A URI in normal form is written as it was. -/
theorem print_ofPlace (set : EncodeSet) (names : List Text) :
    (ofPlace set names).print = fileText set names := by
  cases names with
  | nil => rfl
  | cons name names =>
    simp only [print, ofPlace, List.cons_ne_nil, if_false, Option.map_none, Option.getD_none,
      List.append_nil]
    rfl

theorem mem_absolute {names : List Text} {c : Char} (h : c ∈ absolute names) :
    c = '/' ∨ ∃ n ∈ names, c ∈ n := by
  unfold absolute at h
  split at h
  · exact .inl (List.mem_singleton.mp h)
  · obtain ⟨n, hn, hc⟩ := List.mem_flatMap.mp h
    rcases List.mem_cons.mp hc with hc | hc
    · exact .inl hc
    · exact .inr ⟨n, hn, hc⟩

/-- A local URI names the path that its segments decode to; a drive gets a slash. -/
theorem filePath?_of_decode {segments : List Text} {path : Text} (hne : segments ≠ [])
    (h : segments.flatMap (fun s => Text.encodeChar '/' ++ decode s) = Text.encode path) :
    filePath? ⟨"file".toList, some ⟨[], [], [], none⟩, .segments segments, none, none⟩ =
      some (if isDriveLetter (path.drop (path.length - 2)) && 2 < path.length then path ++ ['/']
        else path) := by
  obtain ⟨first, rest, rfl⟩ := List.exists_cons_of_ne_nil hne
  simp only [filePath?, Option.map_some, Option.getD_some, true_or, if_true, h, Text.decode?_encode]

section Place
variable {set : EncodeSet} (hset : IsFileSet set) {names : List Text}
include hset

/-- What a file URI is made of. -/
theorem mem_fileText {c : Char} (h : c ∈ fileText set names) :
    c ∈ "file://".toList ∨ isPlain c = true := by
  rcases List.mem_append.mp h with hc | hc
  · exact .inl hc
  · rcases mem_absolute hc with rfl | ⟨s, hs, hc⟩
    · exact .inl (by decide)
    · obtain ⟨name, -, rfl⟩ := List.mem_map.mp hs
      exact .inr (isPlain_of_mem_encode hset hc)

theorem readSegments_absolute (hnames : ∀ n ∈ names, IsName n) : ∃ tail,
    absolute (names.map (encode set)) = '/' :: tail ∧ readSegments true true [] [] tail =
      (if names = [] then [[]] else names.map (encode set), []) := by
  cases names with
  | nil => exact ⟨[], rfl, rfl⟩
  | cons name names =>
    refine ⟨encode set name ++ (names.map (encode set)).flatMap ('/' :: ·), rfl, ?_⟩
    refine readSegments_segments (fun x hx => ?_) []
    obtain ⟨n, hn, rfl⟩ := List.mem_map.mp (List.map_cons.symm ▸ hx)
    exact isSegment_encode hset (hnames n hn)

theorem filePath_segments (hnames : ∀ n ∈ names, IsName n) :
    filePath (if names = [] then [[]] else names.map (encode set)) =
      if names = [] then [[]] else names.map (encode set) := by
  cases names with
  | nil => rfl
  | cons name names =>
    have hne := (isSegment_encode hset (hnames name List.mem_cons_self)).ne_nil
    rw [if_neg (List.cons_ne_nil _ _), List.map_cons, filePath,
      List.dropWhile_cons_of_neg (by simpa using hne)]

/-- **The URI of a file is read as it is written.** -/
theorem read_fileText (hnames : ∀ n ∈ names, IsName n) :
    read (fileText set names) = .ok (ofPlace set names) := by
  obtain ⟨tail, htail, hread⟩ := readSegments_absolute hset hnames
  have hstrip : strip (fileText set names) = "file://".toList ++ '/' :: tail := by
    have hmargin : ∀ c ∈ fileText set names, isMargin c = false := by
      intro c hc
      rcases mem_fileText hset hc with hc | hc
      · have hscheme : "file://".toList.all (!isMargin ·) = true := by decide
        simpa using List.all_eq_true.mp hscheme c hc
      · exact isMargin_of_isPlain hc
    rw [strip_eq_self hmargin]
    exact congrArg ("file://".toList ++ ·) htail
  have hscheme : readScheme? ("file://".toList ++ '/' :: tail) =
      some ("file".toList, '/' :: '/' :: '/' :: tail) := rfl
  -- without a host there is nothing to decide before the path
  have hfile : readFile ('/' :: '/' :: '/' :: tail) = .ok (fileUri [] ('/' :: tail)) := rfl
  have hafter : readPathAfter true true ('/' :: tail) = readSegments true true [] [] tail := rfl
  rw [read, hstrip, hscheme]
  simp only [if_true]
  rw [hfile, fileUri, hafter, hread]
  simp only [filePath_segments hset hnames, ite_self]
  rfl

/-- The octets of the path in a file URI are those of the path of its place. -/
theorem flatMap_decode_segments :
    (if names = [] then [[]] else names.map (encode set)).flatMap
      (fun s => Text.encodeChar '/' ++ decode s) = Text.encode (absolute names) := by
  cases names with
  | nil =>
    rw [if_pos rfl, List.flatMap_cons, decode]
    rfl
  | cons name names =>
    rw [if_neg (List.cons_ne_nil _ _), absolute, if_neg (by simp), Text.encode, List.flatMap_map,
      List.flatMap_assoc]
    congr 1
    funext n
    rw [decode_encode hset.percent, List.flatMap_cons]
    rfl

/-- **The URI of a file names the path of its place**, though perhaps with a slash behind it. -/
theorem exists_filePath?_ofPlace : ∃ path, (ofPlace set names).filePath? = some path ∧
    samePath path (absolute names) = true := by
  have hne : (if names = [] then [[]] else names.map (encode set)) ≠ [] := by
    cases names with
    | nil => exact List.cons_ne_nil _ _
    | cons name names => exact List.cons_ne_nil _ _
  have hpath := filePath?_of_decode hne (flatMap_decode_segments hset)
  refine ⟨_, hpath, ?_⟩
  split
  · -- the place has a name like a drive, and a slash behind a path changes no component
    have habsolute : absolute names ≠ [] := by
      cases names with
      | nil => exact List.cons_ne_nil _ _
      | cons name names => exact List.cons_ne_nil _ _
    rw [samePath, components_append_slash habsolute, beq_self_eq_true]
  · exact beq_self_eq_true _

end Place

/-! ## Extensions -/

section Extension
variable {set : EncodeSet} (hset : IsFileSet set) {names : List Text}
include hset

theorem encode_eq_self {t : Text} (h : ∀ c ∈ t, c.isAlphanum = true ∨ c = '.') :
    encode set t = t := by
  induction t with
  | nil => rfl
  | cons c t ih =>
    obtain ⟨hc, ht⟩ := List.forall_mem_cons.mp h
    rw [encode, List.flatMap_cons, ← encode, ih ht, encodeChar, hset.keeps c hc,
      if_neg Bool.false_ne_true, List.singleton_append]

/-- A file URI ends in an extension if the name of the file does. -/
theorem suffix_fileText {name extension : Text}
    (hextension : ∀ c ∈ extension, c.isAlphanum = true) (h : '.' :: extension <:+ name) :
    '.' :: extension <:+ fileText set (names ++ [name]) := by
  obtain ⟨stem, rfl⟩ := h
  have hkept : encode set ('.' :: extension) = '.' :: extension := by
    refine encode_eq_self hset (List.forall_mem_cons.mpr ⟨.inr rfl, fun c hc => ?_⟩)
    exact .inl (hextension c hc)
  have hlast : encode set (stem ++ '.' :: extension) = encode set stem ++ '.' :: extension := by
    rw [encode, List.flatMap_append, ← encode, ← encode, hkept]
  unfold fileText absolute
  rw [if_neg (by simp), List.map_append, List.flatMap_append, List.map_singleton,
    List.flatMap_singleton, hlast, ← List.append_assoc, ← List.cons_append, ← List.append_assoc]
  exact List.suffix_append _ _

/-- Nothing in a file URI starts a query or a fragment. -/
theorem takeWhile_fileText : (fileText set names).takeWhile (fun x => x != '?' && x != '#') =
    fileText set names := by
  rw [List.takeWhile_eq_self_iff]
  intro c hc
  rcases mem_fileText hset hc with hc | hc
  · have hscheme : "file://".toList.all (fun x => x != '?' && x != '#') = true := by decide
    exact List.all_eq_true.mp hscheme c hc
  · obtain ⟨-, -, -, -, hquery, hhash⟩ := ne_of_isPlain hc
    simp [hquery, hhash]

end Extension

end GraphLint.Uri
