import GraphLint.Proofs.Files.Order
import GraphLint.Proofs.Files.Tree
import Mathlib.Data.List.TakeWhile
/-! # What lies below a path

The rest of a path below another one has the components that follow those of the other
(`isRest_of_below?`), so the rest settles the path.  The rest of a path below an absolute one is
relative (`isAbsolute_ne_of_below?`).  Where every path is replaced by its rest below `base`, if it
has one, two different paths become one and the same only if one of them is the rest of the other
(`relativeTo_eq_iff`). -/
namespace GraphLint.Files

/-! ## Joining parts -/

theorem joinParts_cons (part next : Text) (ps : List Text) :
    joinParts (part :: next :: ps) = part ++ '/' :: joinParts (next :: ps) := rfl

/-- Parts can be read off the path that they are joined to. -/
theorem parts_joinParts {ps : List Text} (hne : ps ≠ []) (h : ∀ p ∈ ps, '/' ∉ p) :
    parts (joinParts ps) = ps := by
  induction ps with
  | nil => exact absurd rfl hne
  | cons part rest ih =>
    obtain ⟨hpart, hrest⟩ := List.forall_mem_cons.mp h
    cases rest with
    | nil => exact parts_of_not_mem hpart
    | cons next rest =>
      rw [joinParts_cons, parts_append_slash, parts_of_not_mem hpart,
        ih (List.cons_ne_nil next rest) hrest, List.singleton_append]

/-- A joined path has the characters of its parts, and slashes. -/
theorem mem_joinParts {ps : List Text} {c : Char} (h : c ∈ joinParts ps) :
    c = '/' ∨ ∃ part ∈ ps, c ∈ part := by
  induction ps with
  | nil => cases h
  | cons part rest ih =>
    cases rest with
    | nil => exact .inr ⟨part, List.mem_cons_self, h⟩
    | cons next rest =>
      rw [joinParts_cons, List.mem_append, List.mem_cons] at h
      rcases h with h | rfl | h
      · exact .inr ⟨part, List.mem_cons_self, h⟩
      · exact .inl rfl
      · obtain hslash | ⟨p, hp, hc⟩ := ih h
        · exact .inl hslash
        · exact .inr ⟨p, List.mem_cons_of_mem part hp, hc⟩

/-- A part has no slash and only characters of the path. -/
theorem of_mem_part {path part : Text} {c : Char} (hpart : part ∈ parts path) (hc : c ∈ part) :
    c ∈ path ∧ c ≠ '/' := by
  induction path generalizing part with
  | nil =>
    cases List.mem_singleton.mp hpart
    cases hc
  | cons d path ih =>
    rw [parts, Text.splitAt] at hpart
    split at hpart
    · rcases List.mem_cons.mp hpart with rfl | hpart
      · cases hc
      · exact (ih hpart hc).imp_left (List.mem_cons_of_mem d)
    · rename_i hd
      obtain ⟨first, rest, hsplit⟩ := exists_parts_eq_cons path
      rw [parts] at hsplit ih
      rw [hsplit] at hpart ih
      rcases List.mem_cons.mp hpart with rfl | hpart
      · rcases List.mem_cons.mp hc with rfl | hc
        · exact ⟨List.mem_cons_self, hd⟩
        · exact (ih List.mem_cons_self hc).imp_left (List.mem_cons_of_mem d)
      · exact (ih (List.mem_cons_of_mem first hpart) hc).imp_left (List.mem_cons_of_mem d)

/-! ## Idle parts -/

theorem filterMap_eq_nil_of_isIdle {ps : List Text} (h : ∀ p ∈ ps, isIdle p = true) :
    ps.filterMap component? = [] :=
  List.filterMap_eq_nil_iff.mpr fun p hp => isIdle_iff.mp (h p hp)

/-- Idle parts at the start stand for nothing. -/
theorem filterMap_dropWhile (ps : List Text) :
    (ps.dropWhile isIdle).filterMap component? = ps.filterMap component? := by
  conv_rhs => rw [← List.takeWhile_append_dropWhile (p := isIdle) (l := ps), List.filterMap_append]
  rw [filterMap_eq_nil_of_isIdle fun p hp => List.mem_takeWhile_imp hp, List.nil_append]

/-- Idle parts at the end stand for nothing. -/
theorem filterMap_trimEnd (ps : List Text) :
    (trimEnd ps).filterMap component? = ps.filterMap component? := by
  rw [trimEnd, List.filterMap_reverse, filterMap_dropWhile, List.filterMap_reverse,
    List.reverse_reverse]

/-- Going past `n` names goes past `n` components. -/
theorem filterMap_dropNames (n : Nat) (ps : List Text) :
    (dropNames n ps).filterMap component? = (ps.filterMap component?).drop n := by
  fun_induction dropNames n ps with
  | case1 => rfl
  | case2 => rfl
  | case3 n p ps hidle ih => rw [ih, List.filterMap_cons_none (isIdle_iff.mp hidle)]
  | case4 n p ps hidle ih =>
    obtain ⟨c, hc⟩ := Option.ne_none_iff_exists'.mp (mt isIdle_iff.mpr hidle)
    rw [ih, List.filterMap_cons_some hc, List.drop_succ_cons]

theorem sublist_dropNames (n : Nat) (ps : List Text) : (dropNames n ps).Sublist ps := by
  fun_induction dropNames n ps with
  | case1 => exact List.Sublist.refl _
  | case2 => exact List.Sublist.refl _
  | case3 n p ps hidle ih => exact ih.cons p
  | case4 n p ps hidle ih => exact ih.cons p

theorem sublist_trimEnd (ps : List Text) : (trimEnd ps).Sublist ps := by
  rw [trimEnd]
  exact ((List.dropWhile_sublist isIdle).reverse).trans (by rw [List.reverse_reverse])

/-- What is left of parts that begin with one that is not idle begins with it too. -/
theorem trimEnd_cons {part : Text} (h : isIdle part = false) (ps : List Text) :
    trimEnd (part :: ps) = part :: trimEnd ps := by
  rw [trimEnd, trimEnd, List.reverse_cons, List.dropWhile_append]
  split
  · rename_i hempty
    rw [List.isEmpty_iff] at hempty
    rw [hempty, List.dropWhile_cons_of_neg (by simp [h])]
    rfl
  · rw [List.reverse_append]
    rfl

/-! ## Components -/

theorem component?_ne_here (part : Text) : component? part ≠ some .here := by
  unfold component?
  split
  · exact nofun
  · split <;> exact nofun

/-- What a path starts with before its names. -/
def startOf (path : Text) : List Component :=
  if isAbsolute path then [.root] else if (parts path).head? = some ['.'] then [.here] else []

theorem components_eq (path : Text) :
    components path = startOf path ++ (parts path).filterMap component? := rfl

/-- The start of a path is no name, and all that follows is. -/
theorem filter_components (path : Text) :
    (components path).filter (fun c => c != .root && c != .here) =
      (parts path).filterMap component? := by
  have hstart : (startOf path).filter (fun c => c != .root && c != .here) = [] := by
    unfold startOf
    split
    · rfl
    · split <;> rfl
  rw [components_eq, List.filter_append, hstart, List.nil_append, List.filter_eq_self]
  intro c hc
  obtain ⟨part, -, hpart⟩ := List.mem_filterMap.mp hc
  rw [Bool.and_eq_true, bne_iff_ne, bne_iff_ne]
  constructor
  · rintro rfl
    exact component?_ne_root part hpart
  · rintro rfl
    exact component?_ne_here part hpart

/-- A path joined from parts, the first of which is not idle, has no other start than its first
name. -/
theorem components_joinParts {ps : List Text} (hslash : ∀ p ∈ ps, '/' ∉ p)
    (hhead : ∀ p ∈ ps.head?, isIdle p = false) :
    components (joinParts ps) = ps.filterMap component? ∧ isAbsolute (joinParts ps) = false := by
  cases ps with
  | nil => exact ⟨rfl, rfl⟩
  | cons part rest =>
    have hpart : isIdle part = false := hhead part rfl
    have hparts := parts_joinParts (List.cons_ne_nil part rest) hslash
    have habsolute : isAbsolute (joinParts (part :: rest)) = false := by
      rw [Bool.eq_false_iff]
      intro h
      obtain ⟨tail, htail⟩ := List.head?_eq_some_iff.mp (beq_iff_eq.mp h)
      -- a path that starts with a slash has an empty first part
      have hempty : parts (joinParts (part :: rest)) = [] :: parts tail := by
        rw [htail]
        rfl
      rw [hparts] at hempty
      rw [(List.cons.inj hempty).1] at hpart
      cases hpart
    have hhere : (part :: rest).head? ≠ some ['.'] := by
      intro h
      rw [Option.some.inj h] at hpart
      cases hpart
    refine ⟨?_, habsolute⟩
    rw [components_eq, startOf, habsolute, hparts, if_neg Bool.false_ne_true, if_neg hhere,
      List.nil_append]

/-! ## The rest of a path -/

section
variable {base path rest : Text}

/-- Behind the first component of a path there are only names. -/
theorem mem_filterMap_of_mem_tail {c : Component} (h : c ∈ (components path).tail) :
    c ∈ (parts path).filterMap component? := by
  rw [components_eq, startOf] at h
  split at h
  · exact h
  · split at h
    · exact h
    · exact List.mem_of_mem_tail h

/-- What follows the components of a path that has some are the names behind its names. -/
theorem components_eq_append_drop (hbase : components base ≠ [])
    (h : components base <+: components path) :
    components path = components base ++ ((parts path).filterMap component?).drop
      ((components base).filter fun c => c != .root && c != .here).length := by
  obtain ⟨more, hmore⟩ := h
  have hnames : more.filter (fun c => c != .root && c != .here) = more := by
    obtain ⟨first, others, hfirst⟩ := List.exists_cons_of_ne_nil hbase
    rw [List.filter_eq_self]
    intro c hc
    have htail : c ∈ (components path).tail := by
      rw [← hmore, hfirst, List.cons_append, List.tail_cons]
      exact List.mem_append_right others hc
    have hname := mem_filterMap_of_mem_tail htail
    rw [← filter_components] at hname
    exact (List.mem_filter.mp hname).2
  rw [← filter_components path, ← hmore, List.filter_append, hnames, List.drop_left]

/-- What there is to know about a path below another one: the rest is joined from the parts behind the
names of the other, without idle ones at their ends. -/
theorem below?_eq_some_iff (hbase : components base ≠ []) : below? base path = some rest ↔
    components base <+: components path ∧ rest = joinParts (trimEnd ((dropNames
      ((components base).filter fun c => c != .root && c != .here).length
      (parts path)).dropWhile isIdle)) := by
  have hempty : (components base).isEmpty = false := by simpa using hbase
  simp only [below?, hempty, List.isPrefixOf_iff_prefix, Bool.false_eq_true, if_false]
  split
  · rename_i hstarts
    rw [Option.some_inj, eq_comm]
    exact (and_iff_right hstarts).symm
  · rename_i hstarts
    exact ⟨nofun, fun h => absurd h.1 hstarts⟩

/-- What is left of parts between the idle ones at their ends starts with one that is not idle. -/
theorem isIdle_of_mem_head?_trimEnd (ps : List Text) :
    ∀ p ∈ (trimEnd (ps.dropWhile isIdle)).head?, isIdle p = false := by
  intro p hp
  cases hdrop : ps.dropWhile isIdle with
  | nil =>
    rw [hdrop] at hp
    cases hp
  | cons part rest =>
    have hpart : isIdle part = false := by
      have := List.head?_dropWhile_not isIdle ps
      rw [hdrop] at this
      simpa using this
    rw [hdrop, trimEnd_cons hpart] at hp
    rw [← Option.some.inj hp, hpart]

/-- What the rest of a path below another one is: a relative path with the components that follow, and
with no other characters than the path. -/
structure IsRest (base path rest : Text) : Prop where
  components : components path = components base ++ components rest
  relative : isAbsolute rest = false
  characters : ∀ c ∈ rest, c = '/' ∨ c ∈ path

/-- **The rest of a path has the components that follow.** -/
theorem isRest_of_below? (hbase : components base ≠ []) (h : below? base path = some rest) :
    IsRest base path rest := by
  obtain ⟨hstarts, rfl⟩ := (below?_eq_some_iff hbase).mp h
  have hcomponents := components_eq_append_drop hbase hstarts
  set behind := dropNames
    ((Files.components base).filter fun c => c != .root && c != .here).length (parts path)
  have hsublist : (trimEnd (behind.dropWhile isIdle)).Sublist (parts path) :=
    (sublist_trimEnd _).trans ((List.dropWhile_sublist _).trans (sublist_dropNames _ _))
  have hslash : ∀ p ∈ trimEnd (behind.dropWhile isIdle), '/' ∉ p := fun p hp hmem =>
    (of_mem_part (hsublist.subset hp) hmem).2 rfl
  obtain ⟨hrest, hrelative⟩ := components_joinParts hslash (isIdle_of_mem_head?_trimEnd behind)
  refine ⟨?_, hrelative, fun c hc => ?_⟩
  · rw [hrest, filterMap_trimEnd, filterMap_dropWhile, filterMap_dropNames]
    exact hcomponents
  · rcases mem_joinParts hc with hslash | ⟨part, hpart, hc⟩
    · exact .inl hslash
    · exact .inr (of_mem_part (hsublist.subset hpart) hc).1

end

/-! ## Paths seen from another one -/

/-- A path seen from `base`: its rest below it, or else the path itself. -/
def relativeTo (base path : Text) : Text := (below? base path).getD path

section
variable {base p q : Text}

theorem isAbsolute_iff {path : Text} :
    isAbsolute path = true ↔ ∃ cs, components path = .root :: cs := by
  constructor
  · intro h
    refine ⟨(parts path).filterMap component?, ?_⟩
    rw [components_eq, startOf, if_pos h]
    rfl
  · rintro ⟨cs, hcs⟩
    exact (components_eq_root_cons hcs).1

theorem isAbsolute_eq_of_samePath (h : samePath p q = true) : isAbsolute p = isAbsolute q := by
  rw [samePath, beq_iff_eq] at h
  rw [Bool.eq_iff_iff, isAbsolute_iff, isAbsolute_iff, h]

section
variable (hbase : isAbsolute base = true)
include hbase

theorem isRest_of_isAbsolute {rest : Text} (h : below? base p = some rest) : IsRest base p rest := by
  obtain ⟨cs, hcs⟩ := isAbsolute_iff.mp hbase
  exact isRest_of_below? (by simp [hcs]) h

/-- A path below an absolute one is absolute, and its rest is not. -/
theorem isAbsolute_ne_of_below? (h : below? base p = some q) :
    isAbsolute p = true ∧ isAbsolute q = false := by
  have hrest := isRest_of_isAbsolute hbase h
  obtain ⟨cs, hcs⟩ := isAbsolute_iff.mp hbase
  exact ⟨isAbsolute_iff.mpr ⟨_, by rw [hrest.components, hcs, List.cons_append]⟩, hrest.relative⟩

/-- A path that is what another one looks like from an absolute path looks the same as that one, but is
another one. -/
theorem relativeTo_of_below? (h : below? base p = some q) :
    relativeTo base p = relativeTo base q ∧ samePath p q = false := by
  obtain ⟨hp, hq⟩ := isAbsolute_ne_of_below? hbase h
  have hnone : below? base q = none := by
    rw [Option.eq_none_iff_forall_ne_some]
    intro rest hrest
    rw [(isAbsolute_ne_of_below? hbase hrest).1] at hq
    cases hq
  refine ⟨by rw [relativeTo, relativeTo, h, hnone, Option.getD_some, Option.getD_none], ?_⟩
  rw [Bool.eq_false_iff]
  intro hsame
  rw [isAbsolute_eq_of_samePath hsame, hq] at hp
  cases hp

/-- **Different paths look the same from an absolute one exactly if one of them is what the other
looks like.** -/
theorem relativeTo_eq_iff : relativeTo base p = relativeTo base q ∧ samePath p q = false ↔
    below? base p = some q ∨ below? base q = some p := by
  constructor
  · rintro ⟨hsame, hapart⟩
    unfold relativeTo at hsame
    cases hp : below? base p with
    | none =>
      cases hq : below? base q with
      | none =>
        rw [hp, hq, Option.getD_none, Option.getD_none] at hsame
        rw [hsame, samePath_self] at hapart
        cases hapart
      | some rest =>
        rw [hp, hq, Option.getD_none, Option.getD_some] at hsame
        exact .inr (congrArg some hsame.symm)
    | some rest =>
      cases hq : below? base q with
      | none =>
        rw [hp, hq, Option.getD_none, Option.getD_some] at hsame
        exact .inl (congrArg some hsame)
      | some other =>
        -- both lie below, and their rests settle their components
        rw [hp, hq, Option.getD_some, Option.getD_some] at hsame
        rw [samePath, (isRest_of_isAbsolute hbase hp).components,
          (isRest_of_isAbsolute hbase hq).components, hsame, beq_self_eq_true] at hapart
        cases hapart
  · rintro (h | h)
    · exact relativeTo_of_below? hbase h
    · obtain ⟨hsame, hapart⟩ := relativeTo_of_below? hbase h
      exact ⟨hsame.symm, by rwa [samePath_comm]⟩

end
end
end GraphLint.Files
