import GraphLint.Proofs.Files.Walk
import GraphLint.Proofs.Project.Failure
/-! # What exclude patterns leave out

A pattern is held against a path as the walk writes it, and the walk writes the path that it starts
from in front (`eq_or_exists_child_of_mem_walk`).  What a pattern covers that way is neither read
nor reported, and everything else is.  So whether a pattern applies to a file depends on where the
walk starts.  One that opens with a wildcard applies wherever it applies to what is behind the start
(`covers_child_of_opensWithWildcard`).  One that opens with characters applies to nothing unless
these go with the start as it is written (`lead_prefix_of_covers`), as those of the default patterns
never do below `.` or an absolute path (`validate_defaultExclude`). -/
namespace GraphLint.Project
open Files Pattern

/-! ## Patterns and starts -/

/-- The characters that a pattern opens with. -/
def lead : List Piece → Text
  | .char c :: ps => c :: lead ps
  | _ => []

theorem lead_prefix_of_covers {pieces : List Piece} {t : Text} (h : covers pieces t = true) :
    lead pieces <+: t := by
  induction pieces generalizing t with
  | nil => exact List.nil_prefix
  | cons piece ps ih =>
    cases piece with
    | char x =>
      cases t with
      | nil => cases h
      | cons c t =>
        rw [covers, Bool.and_eq_true, beq_iff_eq] at h
        obtain ⟨rfl, h⟩ := h
        exact List.cons_prefix_cons.mpr ⟨rfl, ih h⟩
    | _ => exact List.nil_prefix

/-- Whether a pattern opens with a wildcard for any number of characters or of components. -/
def opensWithWildcard : List Piece → Bool
  | .anyChars :: _ => true
  | .anyComponents :: _ => true
  | _ => false

theorem anyRest_append {p : Text → Bool} {t : Text} (h : anyRest p t = true) (s : Text) :
    anyRest p (s ++ t) = true := by
  induction s with
  | nil => exact h
  | cons c s ih => rw [List.cons_append, anyRest, ih, Bool.or_true]

theorem anyRestAfterSlash_append {p : Text → Bool} {t : Text}
    (h : (p t || anyRestAfterSlash p t) = true) (s : Text) :
    anyRestAfterSlash p (s ++ '/' :: t) = true := by
  induction s with
  | nil => exact h
  | cons c s ih => rw [List.cons_append, anyRestAfterSlash, ih, Bool.or_true]

/-- **A pattern that opens with a wildcard applies from every start.** -/
theorem covers_child_of_opensWithWildcard {pieces : List Piece} {path rest : Text}
    (hpath : path ≠ []) (hopens : opensWithWildcard pieces = true)
    (h : covers pieces rest = true) : covers pieces (child path rest) = true := by
  obtain ⟨start, hstart⟩ := exists_child_eq hpath
  rw [hstart rest]
  unfold opensWithWildcard at hopens
  split at hopens
  · -- the characters may be the start with its slash
    rw [covers] at h ⊢
    rw [List.append_cons]
    exact anyRest_append h _
  · -- the components may be those of the start, since a slash ends it
    rw [covers] at h ⊢
    rw [anyRestAfterSlash_append h, Bool.or_true]
  · cases hopens

/-- Whether a pattern covers a path. -/
def isExcluded (patterns : List (List Piece)) (p : Text) : Bool := patterns.any (covers · p)

/-- A pattern's opening characters and the start as it is written go apart. -/
def GoesApart (pieces : List Piece) (path : Text) : Prop :=
  ¬ lead pieces <+: child path [] ∧ ¬ child path [] <+: lead pieces

section
variable {fs : FileSystem} {config : Config} {path : Text} {patterns : List (List Piece)}

theorem covers_eq_false_of_goesApart {pieces : List Piece} {p : Text} (hp : p ∈ walk fs path)
    (h : GoesApart pieces path) : covers pieces p = false := by
  rw [Bool.eq_false_iff]
  intro hcovers
  have hlead := lead_prefix_of_covers hcovers
  rcases eq_or_exists_child_of_mem_walk hp with rfl | ⟨rest, rfl⟩
  · exact h.1 (hlead.trans (prefix_child p []))
  · rw [child_eq] at hlead
    exact (List.prefix_or_prefix_of_prefix hlead (List.prefix_append _ rest)).elim h.1 h.2

theorem isExcluded_eq_false_of_goesApart {p : Text} (hp : p ∈ walk fs path)
    (h : ∀ pieces ∈ patterns, GoesApart pieces path) : isExcluded patterns p = false := by
  rw [isExcluded, List.any_eq_false]
  intro pieces hpieces
  rw [covers_eq_false_of_goesApart hp (h pieces hpieces)]
  exact Bool.false_ne_true

theorem selects_eq (config : Config) (patterns : List (List Piece)) (p : Text) :
    selects config patterns p = (config.accepts p && !isExcluded patterns p) := rfl

/-! ## What is read and reported -/

/-- What is found about files does not depend on what the other files hold. -/
theorem validateAll_congr {fs' : FileSystem} {files : List Text}
    (h : ∀ p ∈ files, fs'.readText p = fs.readText p) :
    validateAll fs' config files = validateAll fs config files := by
  induction files with
  | nil => rfl
  | cons p rest ih =>
    obtain ⟨hp, hrest⟩ := List.forall_mem_cons.mp h
    rw [validateAll, validateAll, validateFile, validateFile, hp, ih hrest]

/-- Without patterns the same is found about the same files. -/
theorem validateAll_withoutExclude (fs : FileSystem) (config : Config) (files : List Text) :
    validateAll fs { config with exclude := [] } files = validateAll fs config files := by
  induction files with
  | nil => rfl
  | cons p rest ih =>
    rw [validateAll, validateAll, ih]
    rfl

theorem validate_eq (hpatterns : readPatterns config.exclude = .ok patterns) :
    validate fs config path =
      (validateAll fs config ((walk fs path).filter (selects config patterns)) >>= fun found =>
        .ok (sort found)) :=
  validateWalked_of_readPatterns_eq_ok hpatterns fs (walk fs path)

/-- **Patterns that go apart from the start change nothing.** -/
theorem validate_eq_of_goesApart (hpatterns : readPatterns config.exclude = .ok patterns)
    (h : ∀ pieces ∈ patterns, GoesApart pieces path) :
    validate fs config path = validate fs { config with exclude := [] } path := by
  have hnone : readPatterns ({ config with exclude := [] } : Config).exclude = .ok [] := rfl
  rw [validate_eq hpatterns, validate_eq hnone, validateAll_withoutExclude]
  have hfilter : (walk fs path).filter (selects config patterns) =
      (walk fs path).filter (selects { config with exclude := [] } []) := by
    apply List.filter_congr
    intro p hp
    rw [selects_eq, isExcluded_eq_false_of_goesApart hp h]
    rfl
  rw [hfilter]

/-- **The default patterns leave nothing out** of a walk from the working directory or from an
absolute path. -/
theorem validate_defaultExclude (fs : FileSystem)
    (hexclude : config.exclude = ({} : Config).exclude)
    (hpath : path = ['.'] ∨ isAbsolute path = true) :
    validate fs config path = validate fs { config with exclude := [] } path := by
  obtain ⟨patterns, hpatterns, hleads⟩ : ∃ patterns,
      readPatterns ({} : Config).exclude = .ok patterns ∧
        patterns.map lead = ["node_modules/".toList, ".git/".toList, "target/".toList] :=
    ⟨_, rfl, rfl⟩
  refine validate_eq_of_goesApart (hexclude ▸ hpatterns) fun pieces hpieces => ?_
  have hlead := hleads ▸ List.mem_map_of_mem hpieces
  rw [GoesApart]
  rcases hpath with rfl | habsolute
  · have hstart : child ['.'] [] = "./".toList := rfl
    rw [hstart]
    simp only [List.mem_cons, List.not_mem_nil, or_false] at hlead
    rcases hlead with h | h | h <;> rw [h] <;> decide
  · obtain ⟨rest, rfl⟩ := List.head?_eq_some_iff.mp (beq_iff_eq.mp habsolute)
    obtain ⟨tail, htail⟩ := prefix_child ('/' :: rest) []
    rw [← htail, List.cons_append]
    simp only [List.mem_cons, List.not_mem_nil, or_false] at hlead
    rcases hlead with h | h | h <;> rw [h] <;> simp

/-- How patterns bear on a walk from a path. -/
structure Exclusion (fs : FileSystem) (config : Config) (path : Text)
    (patterns : List (List Piece)) : Prop where
  /-- What a pattern covers is not read: the result is the same whatever it holds. -/
  unread : ∀ fs' : FileSystem, walk fs' path = walk fs path →
    (∀ p ∈ walk fs path, isExcluded patterns p = false → fs'.readText p = fs.readText p) →
    validate fs' config path = validate fs config path
  /-- What a pattern covers is not reported. -/
  unreported : ∀ found, validate fs config path = .ok found →
    ∀ e ∈ found, isExcluded patterns e.file = false
  /-- What no pattern covers is read and reported. -/
  reported : ∀ found, validate fs config path = .ok found → ∀ p ∈ walk fs path,
    config.accepts p = true → isExcluded patterns p = false → ∃ text, fs.readText p = .ok text ∧
      ∀ d ∈ Validation.validate config text, ⟨p, d⟩ ∈ found
  /-- What is held against the patterns has the start of the walk in front. -/
  walked : ∀ p ∈ walk fs path, p = path ∨ ∃ rest, p = child path rest
  /-- A pattern that opens with a wildcard applies whatever the start is. -/
  wildcard : ∀ pieces ∈ patterns, opensWithWildcard pieces = true → ∀ rest,
    covers pieces rest = true → child path rest ∈ walk fs path →
      isExcluded patterns (child path rest) = true
  /-- A pattern whose opening characters go apart from the start applies to nothing. -/
  apart : ∀ pieces ∈ patterns, GoesApart pieces path → ∀ p ∈ walk fs path,
    covers pieces p = false

/-- **Excludes apply to paths as they are walked.** -/
theorem exclusion_of_readPatterns (fs : FileSystem) (config : Config) (path : Text)
    (patterns : List (List Piece)) (hpatterns : readPatterns config.exclude = .ok patterns) :
    Exclusion fs config path patterns where
  unread fs' hwalk hread := by
    rw [validate_eq hpatterns, validate_eq hpatterns, hwalk, validateAll_congr]
    intro p hp
    obtain ⟨hmem, hselected⟩ := List.mem_filter.mp hp
    rw [selects_eq, Bool.and_eq_true, Bool.not_eq_true'] at hselected
    exact hread p hmem hselected.2
  unreported found h e he := by
    obtain ⟨-, rfl⟩ := (validateWalked_eq_ok_iff hpatterns).mp h
    obtain ⟨p, hp, he⟩ := List.mem_flatMap.mp ((sort_perm _).mem_iff.mp he)
    have hselected := (List.mem_filter.mp hp).2
    rw [selects_eq, Bool.and_eq_true, Bool.not_eq_true'] at hselected
    rw [file_of_mem_findingsIn he]
    exact hselected.2
  reported found h p hp haccepts hexcluded := by
    obtain ⟨hread, rfl⟩ := (validateWalked_eq_ok_iff hpatterns).mp h
    have hselected : selects config patterns p = true := by
      rw [selects_eq, haccepts, hexcluded]
      rfl
    obtain ⟨text, htext⟩ := hread p hp hselected
    refine ⟨text, htext, fun d hd => (sort_perm _).mem_iff.mpr (List.mem_flatMap.mpr ?_)⟩
    refine ⟨p, List.mem_filter.mpr ⟨hp, hselected⟩, ?_⟩
    rw [findingsIn_of_readText htext]
    exact List.mem_map_of_mem hd
  walked p hp := eq_or_exists_child_of_mem_walk hp
  wildcard pieces hpieces hopens rest hcovers hwalked := by
    obtain ⟨_, _, _, _, hlocate, -⟩ := exists_of_mem_walk hwalked
    exact List.any_eq_true.mpr ⟨pieces, hpieces,
      covers_child_of_opensWithWildcard (ne_nil_of_locate hlocate) hopens hcovers⟩
  apart pieces _ hapart p hp := covers_eq_false_of_goesApart hp hapart

end

/-- A working directory with an empty graph in a directory for build products. -/
def buildProducts : FileSystem where
  root := .directory [("target".toList, .directory [("a.kro".toList, .file [])])]
  working := []

theorem exclusion_of_readPatterns_buildProducts :
    ∃ patterns, readPatterns ({} : Config).exclude = .ok patterns ∧
      Exclusion buildProducts {} ['.'] patterns :=
  ⟨_, rfl, exclusion_of_readPatterns buildProducts {} ['.'] _ rfl⟩

/-- **The default patterns do not keep a build directory out of the report.**  A default pattern
covers the path of the graph relative to the start, and all the same there are findings about the
graph. -/
theorem reported_buildProducts :
    (∃ patterns, readPatterns ({} : Config).exclude = .ok patterns ∧
      isExcluded patterns "target/a.kro".toList = true) ∧
    walk buildProducts ['.'] = [child ['.'] "target/a.kro".toList] ∧
    ∃ found, validate buildProducts {} ['.'] = .ok found ∧
      ∃ e ∈ found, e.file = child ['.'] "target/a.kro".toList := by
  have hwalk : walk buildProducts ['.'] = [child ['.'] "target/a.kro".toList] := rfl
  have hread : buildProducts.readText (child ['.'] "target/a.kro".toList) = .ok [] := rfl
  have hfound : Validation.validate {} [] ≠ [] := by decide +kernel
  obtain ⟨d, _, hd⟩ := List.exists_cons_of_ne_nil hfound
  refine ⟨⟨_, rfl, by decide +kernel⟩, hwalk, _, validateWalked_eq rfl ?_, ⟨_, d⟩,
    (sort_perm _).mem_iff.mpr (List.mem_flatMap.mpr
      ⟨child ['.'] "target/a.kro".toList, by decide +kernel, ?_⟩), rfl⟩
  · intro p hp _
    rw [hwalk, List.mem_singleton] at hp
    exact ⟨[], hp ▸ hread⟩
  · rw [findingsIn_of_readText hread, hd]
    exact List.mem_cons_self

end GraphLint.Project
