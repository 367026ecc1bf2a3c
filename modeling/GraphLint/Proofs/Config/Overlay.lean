import GraphLint.ConfigFile
import Mathlib.Data.Option.Basic
/-! # Settings over their defaults

What the table of a settings file denotes, said of each key on its own.  Each key is looked up; what
is found has to denote a value of its kind, and what is missing has its default (`Gives`).  The
readers do the same for five keys on two levels, with the same two lemmas for each of them
(`readKey_eq_some_iff`, `readKey_eq_none_iff`), and a record is read if all its parts are.  So
settings are read exactly if they are those that the keys give (`ofEntries?_eq_some_iff`), they are
not read exactly if some key has a bad value (`ofEntries?_eq_none_iff`), and as nothing but the
look-ups of the known keys goes into it, other keys make no difference (`ofEntries?_congr`). -/
namespace GraphLint.Config
open Toml (Value Entries)

variable {α β γ δ : Type}

/-! ## What values denote -/

/-- A truth value. -/
def DenotesBool (v : Value) (b : Bool) : Prop := v = .boolean b

/-- A list of texts. -/
def DenotesTexts (v : Value) (ts : List Text) : Prop := v = .list (ts.map .text)

/-- A list of texts that are codes of rules. -/
def DenotesCodes (v : Value) (codes : List String) : Prop :=
  v = .list (codes.map fun code => .text code.toList)

/-- What was found under a key gives a value: it denotes one, or the default if there is nothing. -/
inductive Gives (Denotes : Value → α → Prop) (default : α) : Option Value → α → Prop
  | missing : Gives Denotes default none default
  | found {v : Value} {x : α} (h : Denotes v x) : Gives Denotes default (some v) x

/-- What was found under a key is bad: there is something, and it denotes nothing. -/
def IsBad (Denotes : Value → α → Prop) (found : Option Value) : Prop :=
  ∃ v, found = some v ∧ ∀ x, ¬ Denotes v x

/-- The switches for the rules that what was found for each of them gives. -/
structure GivesRules (expressions schema disabledRules : Option Value) (rules : RuleConfig) :
    Prop where
  expressions : Gives DenotesBool ({} : RuleConfig).expressions expressions rules.expressions
  schema : Gives DenotesBool ({} : RuleConfig).schema schema rules.schema
  disabledRules :
    Gives DenotesCodes ({} : RuleConfig).disabledRules disabledRules rules.disabledRules

/-- The switches for the rules. -/
inductive DenotesRules : Value → RuleConfig → Prop
  | table {form : Toml.TableForm} {es : Entries} {rules : RuleConfig}
      (h : GivesRules (es.find? "expressions".toList) (es.find? "schema".toList)
        (es.find? "disabled_rules".toList) rules) : DenotesRules (.table form es) rules
  /-- The values without their keys. -/
  | list {items : List Value} {rules : RuleConfig}
      (h : GivesRules items[0]? items[1]? items[2]? rules) : DenotesRules (.list items) rules
  | moment : DenotesRules .moment {}

/-- **Settings that a table lays over the defaults**: each key that is present has its value in the
table, and each key that is missing has its default. -/
structure Overlays (es : Entries) (config : Config) : Prop where
  rules : Gives DenotesRules ({} : Config).rules (es.find? "rules".toList) config.rules
  fileExtensions : Gives DenotesTexts ({} : Config).fileExtensions
    (es.find? "file_extensions".toList) config.fileExtensions
  exclude : Gives DenotesTexts ({} : Config).exclude (es.find? "exclude".toList) config.exclude

/-! ## Bad values -/

/-- One of the switches for the rules is bad. -/
def HasBadSwitch (expressions schema disabledRules : Option Value) : Prop :=
  IsBad DenotesBool expressions ∨ IsBad DenotesBool schema ∨ IsBad DenotesCodes disabledRules

/-- No switches for the rules: something else, or a bad value among them. -/
inductive BadRules : Value → Prop
  | kind {v : Value} (htable : ∀ form es, v ≠ .table form es) (hlist : ∀ items, v ≠ .list items)
      (hmoment : v ≠ .moment) : BadRules v
  | table {form : Toml.TableForm} {es : Entries}
      (h : HasBadSwitch (es.find? "expressions".toList) (es.find? "schema".toList)
        (es.find? "disabled_rules".toList)) : BadRules (.table form es)
  | list {items : List Value} (h : HasBadSwitch items[0]? items[1]? items[2]?) :
      BadRules (.list items)

/-- A table has a bad value under one of the known keys, on one of the two levels. -/
inductive HasBadValue (es : Entries) : Prop
  | rules {v : Value} (hv : es.find? "rules".toList = some v) (h : BadRules v)
  | fileExtensions (h : IsBad DenotesTexts (es.find? "file_extensions".toList))
  | exclude (h : IsBad DenotesTexts (es.find? "exclude".toList))

/-! ## Reading one value -/

theorem readBool_eq_some_iff (v : Value) (b : Bool) : readBool v = some b ↔ DenotesBool v b := by
  cases v <;> simp [readBool, DenotesBool]

theorem readText_eq_some_iff (v : Value) (t : Text) : readText v = some t ↔ v = .text t := by
  cases v <;> simp [readText]

theorem mapM_readText_eq_some_iff {items : List Value} {ts : List Text} :
    items.mapM readText = some ts ↔ items = ts.map .text := by
  induction items generalizing ts with
  | nil => cases ts <;> simp
  | cons v items ih =>
    simp only [List.mapM_cons, Option.bind_eq_bind, Option.bind_eq_some_iff, Option.pure_def,
      Option.some.injEq, readText_eq_some_iff, ih]
    constructor
    · rintro ⟨t, rfl, ts, rfl, rfl⟩
      rfl
    · intro h
      obtain ⟨t, ts', rfl, rfl, rfl⟩ := List.map_eq_cons_iff.mp h.symm
      exact ⟨t, rfl, ts', rfl, rfl⟩

theorem readTexts_eq_some_iff (v : Value) (ts : List Text) :
    readTexts v = some ts ↔ DenotesTexts v ts := by
  cases v with
  | list items => rw [readTexts, mapM_readText_eq_some_iff, DenotesTexts, Value.list.injEq]
  | _ => simp [readTexts, DenotesTexts]

theorem readCodes_eq_some_iff (v : Value) (codes : List String) :
    readCodes v = some codes ↔ DenotesCodes v codes := by
  rw [readCodes, Option.map_eq_some_iff]
  constructor
  · rintro ⟨ts, hts, rfl⟩
    rw [(readTexts_eq_some_iff v ts).mp hts]
    simp [DenotesCodes, Function.comp_def]
  · intro h
    refine ⟨codes.map String.toList, (readTexts_eq_some_iff v _).mpr ?_, ?_⟩
    · rw [h, DenotesTexts, List.map_map]
      rfl
    · simp [Function.comp_def]

/-! ## Reading what was found under a key -/

section
variable {read : Value → Option α} {Denotes : Value → α → Prop} {default x : α}
  {found : Option Value} {es : Entries} {items : List Value} {key : String} {index : Nat}

theorem gives_none_iff : Gives Denotes default none x ↔ x = default := by
  constructor
  · rintro ⟨⟩
    rfl
  · rintro rfl
    exact .missing

theorem gives_some_iff {v : Value} : Gives Denotes default (some v) x ↔ Denotes v x := by
  constructor
  · rintro ⟨h⟩
    assumption
  · exact .found

theorem isBad_none : ¬ IsBad Denotes none := by
  rintro ⟨v, hv, -⟩
  cases hv

theorem isBad_some_iff {v : Value} : IsBad Denotes (some v) ↔ ∀ x, ¬ Denotes v x := by
  constructor
  · rintro ⟨w, hw, h⟩
    cases hw
    exact h
  · intro h
    exact ⟨v, rfl, h⟩

/-- What was found is good or bad. -/
theorem read_eq_none_iff (hread : ∀ v x, read v = some x ↔ Denotes v x) (v : Value) :
    read v = none ↔ ∀ x, ¬ Denotes v x := by
  rw [Option.eq_none_iff_forall_ne_some]
  exact forall_congr' fun x => not_congr (hread v x)

/-- A value that is missing is read as its default. -/
theorem read_found_eq_some_iff (hread : ∀ v x, read v = some x ↔ Denotes v x) :
    (match found with
      | none => some default
      | some v => read v) = some x ↔ Gives Denotes default found x := by
  cases found with
  | none => rw [gives_none_iff, Option.some.injEq, eq_comm]
  | some v => rw [gives_some_iff, hread]

theorem read_found_eq_none_iff (hread : ∀ v x, read v = some x ↔ Denotes v x) :
    (match found with
      | none => some default
      | some v => read v) = none ↔ IsBad Denotes found := by
  cases found with
  | none => exact iff_of_false nofun isBad_none
  | some v => rw [isBad_some_iff, read_eq_none_iff hread]

theorem readKey_eq_some_iff (hread : ∀ v x, read v = some x ↔ Denotes v x) :
    readKey read es key default = some x ↔ Gives Denotes default (es.find? key.toList) x :=
  read_found_eq_some_iff hread

theorem readKey_eq_none_iff (hread : ∀ v x, read v = some x ↔ Denotes v x) :
    readKey read es key default = none ↔ IsBad Denotes (es.find? key.toList) :=
  read_found_eq_none_iff hread

theorem readItem_eq_some_iff (hread : ∀ v x, read v = some x ↔ Denotes v x) :
    readItem read items index default = some x ↔ Gives Denotes default items[index]? x :=
  read_found_eq_some_iff hread

theorem readItem_eq_none_iff (hread : ∀ v x, read v = some x ↔ Denotes v x) :
    readItem read items index default = none ↔ IsBad Denotes items[index]? :=
  read_found_eq_none_iff hread

end

/-! ## Reading records -/

section
variable {a : Option α} {b : Option β} {c : Option γ} {f : α → β → γ → δ}

/-- A record is read if all its parts are. -/
theorem record_eq_some_iff {r : δ} : (do return f (← a) (← b) (← c)) = some r ↔
    ∃ x y z, a = some x ∧ b = some y ∧ c = some z ∧ f x y z = r := by
  cases a <;> cases b <;> cases c <;> simp

theorem record_eq_none_iff : (do return f (← a) (← b) (← c)) = none ↔
    a = none ∨ b = none ∨ c = none := by
  cases a <;> cases b <;> cases c <;> simp

end

theorem readRules_eq_some_iff (v : Value) (rules : RuleConfig) :
    readRules v = some rules ↔ DenotesRules v rules := by
  cases v with
  | table form es =>
    rw [readRules, record_eq_some_iff]
    simp only [readKey_eq_some_iff readBool_eq_some_iff, readKey_eq_some_iff readCodes_eq_some_iff]
    constructor
    · rintro ⟨x, y, z, hx, hy, hz, rfl⟩
      exact .table ⟨hx, hy, hz⟩
    · intro h
      cases h with
      | table h => exact ⟨_, _, _, h.expressions, h.schema, h.disabledRules, rfl⟩
  | list items =>
    rw [readRules, record_eq_some_iff]
    simp only [readItem_eq_some_iff readBool_eq_some_iff,
      readItem_eq_some_iff readCodes_eq_some_iff]
    constructor
    · rintro ⟨x, y, z, hx, hy, hz, rfl⟩
      exact .list ⟨hx, hy, hz⟩
    · intro h
      cases h with
      | list h => exact ⟨_, _, _, h.expressions, h.schema, h.disabledRules, rfl⟩
  | moment =>
    constructor
    · rintro ⟨⟩
      exact .moment
    · rintro ⟨⟩
      rfl
  | _ => exact iff_of_false nofun nofun

theorem readRules_eq_none_iff (v : Value) : readRules v = none ↔ BadRules v := by
  cases v with
  | table form es =>
    rw [readRules, record_eq_none_iff, readKey_eq_none_iff readBool_eq_some_iff,
      readKey_eq_none_iff readBool_eq_some_iff, readKey_eq_none_iff readCodes_eq_some_iff]
    constructor
    · exact .table
    · rintro (⟨htable, -, -⟩ | h)
      · exact absurd rfl (htable form es)
      · exact h
  | list items =>
    rw [readRules, record_eq_none_iff, readItem_eq_none_iff readBool_eq_some_iff,
      readItem_eq_none_iff readBool_eq_some_iff, readItem_eq_none_iff readCodes_eq_some_iff]
    constructor
    · exact .list
    · rintro (⟨-, hlist, -⟩ | - | h)
      · exact absurd rfl (hlist items)
      · exact h
  | moment =>
    refine iff_of_false nofun ?_
    rintro ⟨-, -, hmoment⟩
    exact hmoment rfl
  | _ => exact iff_of_true rfl (.kind nofun nofun nofun)

/-- What denotes no switches for the rules is bad in one of the ways above. -/
theorem forall_not_denotesRules_iff (v : Value) :
    (∀ rules, ¬ DenotesRules v rules) ↔ BadRules v :=
  (read_eq_none_iff readRules_eq_some_iff v).symm.trans (readRules_eq_none_iff v)

/-! ## Reading a table -/

section
variable {es es' : Entries} {config : Config}

/-- **A table denotes the settings that it lays over the defaults.** -/
theorem ofEntries?_eq_some_iff : ofEntries? es = some config ↔ Overlays es config := by
  rw [ofEntries?, record_eq_some_iff]
  simp only [readKey_eq_some_iff readRules_eq_some_iff, readKey_eq_some_iff readTexts_eq_some_iff]
  constructor
  · rintro ⟨x, y, z, hx, hy, hz, rfl⟩
    exact ⟨hx, hy, hz⟩
  · intro h
    exact ⟨_, _, _, h.rules, h.fileExtensions, h.exclude, rfl⟩

/-- **One bad value and the table denotes nothing.** -/
theorem ofEntries?_eq_none_iff : ofEntries? es = none ↔ HasBadValue es := by
  rw [ofEntries?, record_eq_none_iff, readKey_eq_none_iff readRules_eq_some_iff,
    readKey_eq_none_iff readTexts_eq_some_iff, readKey_eq_none_iff readTexts_eq_some_iff]
  constructor
  · rintro (⟨v, hv, hnone⟩ | h | h)
    · exact .rules hv ((forall_not_denotesRules_iff v).mp hnone)
    · exact .fileExtensions h
    · exact .exclude h
  · intro h
    cases h with
    | @rules v hv h => exact .inl ⟨v, hv, (forall_not_denotesRules_iff v).mpr h⟩
    | fileExtensions h => exact .inr (.inl h)
    | exclude h => exact .inr (.inr h)

/-- The settings that a table lays over the defaults are settled by it. -/
theorem Overlays.unique {config' : Config} (h : Overlays es config) (h' : Overlays es config') :
    config = config' :=
  Option.some.inj ((ofEntries?_eq_some_iff.mpr h).symm.trans (ofEntries?_eq_some_iff.mpr h'))

/-! ## Tables of the expected form -/

/-- Each of the known keys for rules that is present has a value of its kind. -/
structure HasTypedSwitches (es : Entries) : Prop where
  expressions : ∀ v, es.find? "expressions".toList = some v → ∃ b, v = .boolean b
  schema : ∀ v, es.find? "schema".toList = some v → ∃ b, v = .boolean b
  disabledRules : ∀ v, es.find? "disabled_rules".toList = some v →
    ∃ ts : List Text, v = .list (ts.map .text)

/-- Each of the known keys that is present has a value of its kind, on both levels. -/
structure IsTyped (es : Entries) : Prop where
  rules : ∀ v, es.find? "rules".toList = some v →
    ∃ form switches, v = .table form switches ∧ HasTypedSwitches switches
  fileExtensions : ∀ v, es.find? "file_extensions".toList = some v →
    ∃ ts : List Text, v = .list (ts.map .text)
  exclude : ∀ v, es.find? "exclude".toList = some v → ∃ ts : List Text, v = .list (ts.map .text)

theorem exists_gives {Denotes : Value → α → Prop} {found : Option Value} (default : α)
    (h : ∀ v, found = some v → ∃ x, Denotes v x) : ∃ x, Gives Denotes default found x := by
  cases found with
  | none => exact ⟨default, .missing⟩
  | some v =>
    obtain ⟨x, hx⟩ := h v rfl
    exact ⟨x, .found hx⟩

theorem exists_denotesCodes {v : Value} (h : ∃ ts : List Text, v = .list (ts.map .text)) :
    ∃ codes, DenotesCodes v codes := by
  obtain ⟨ts, rfl⟩ := h
  refine ⟨ts.map String.ofList, ?_⟩
  simp [DenotesCodes, Function.comp_def]

theorem HasTypedSwitches.exists_denotesRules (h : HasTypedSwitches es) (form : Toml.TableForm) :
    ∃ rules, DenotesRules (.table form es) rules := by
  obtain ⟨x, hx⟩ := exists_gives ({} : RuleConfig).expressions h.expressions
  obtain ⟨y, hy⟩ := exists_gives ({} : RuleConfig).schema h.schema
  obtain ⟨z, hz⟩ := exists_gives ({} : RuleConfig).disabledRules
    fun v hv => exists_denotesCodes (h.disabledRules v hv)
  exact ⟨⟨x, y, z⟩, .table ⟨hx, hy, hz⟩⟩

/-- **A table of the expected form lays settings over the defaults**, whichever of its keys are
present. -/
theorem IsTyped.exists_overlays (h : IsTyped es) : ∃ config, Overlays es config := by
  have hrules : ∀ v, es.find? "rules".toList = some v → ∃ rules, DenotesRules v rules := by
    intro v hv
    obtain ⟨form, switches, rfl, hswitches⟩ := h.rules v hv
    exact hswitches.exists_denotesRules form
  obtain ⟨x, hx⟩ := exists_gives ({} : Config).rules hrules
  obtain ⟨y, hy⟩ := exists_gives ({} : Config).fileExtensions h.fileExtensions
  obtain ⟨z, hz⟩ := exists_gives ({} : Config).exclude h.exclude
  exact ⟨⟨x, y, z⟩, hx, hy, hz⟩

/-! ## Other keys -/

/-- Two values for the rules are the same up to keys that are not known. -/
inductive SameRules : Option Value → Option Value → Prop
  | same (found : Option Value) : SameRules found found
  | tables {form form' : Toml.TableForm} {switches switches' : Entries}
      (h : ∀ key ∈ ["expressions", "schema", "disabled_rules"],
        switches.find? key.toList = switches'.find? key.toList) :
      SameRules (some (.table form switches)) (some (.table form' switches'))

/-- Two tables are the same up to keys that are not known, on both levels. -/
structure SameKnown (es es' : Entries) : Prop where
  rules : SameRules (es.find? "rules".toList) (es'.find? "rules".toList)
  fileExtensions : es.find? "file_extensions".toList = es'.find? "file_extensions".toList
  exclude : es.find? "exclude".toList = es'.find? "exclude".toList

theorem readRules_congr {form form' : Toml.TableForm}
    (h : ∀ key ∈ ["expressions", "schema", "disabled_rules"],
      es.find? key.toList = es'.find? key.toList) :
    readRules (.table form es) = readRules (.table form' es') := by
  have hexpressions := h "expressions" (by simp)
  have hschema := h "schema" (by simp)
  have hdisabled := h "disabled_rules" (by simp)
  simp only [readRules, readKey, hexpressions, hschema, hdisabled]

theorem SameRules.readKey_eq {key : String}
    (h : SameRules (es.find? key.toList) (es'.find? key.toList)) (default : RuleConfig) :
    readKey readRules es key default = readKey readRules es' key default := by
  rw [readKey, readKey]
  generalize es.find? key.toList = found at h ⊢
  generalize es'.find? key.toList = found' at h ⊢
  cases h with
  | same found => rfl
  | tables h => exact readRules_congr h

/-- **Keys that are not known make no difference.** -/
theorem ofEntries?_congr (h : SameKnown es es') : ofEntries? es = ofEntries? es' := by
  rw [ofEntries?, ofEntries?, h.rules.readKey_eq]
  simp only [readKey, h.fileExtensions, h.exclude]

end
end GraphLint.Config
