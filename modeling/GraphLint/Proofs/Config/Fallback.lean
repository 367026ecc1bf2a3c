import GraphLint.Proofs.Config.Overlay
import GraphLint.Proofs.Server.Workspace
/-! # Settings are loaded whole or not at all

Whatever is wrong with a settings file fails the load as a whole: it cannot be read, it is no text,
the text is no table, or one of the known keys has a bad value, however many good ones stand beside
it (`IsUnusable`, `exists_load_eq_error_iff`).  Two callers go on without settings that they cannot
load.  One puts the default settings in their place.  The other is the start of a connection, which
leaves the settings of the connection as they are; it first asks whether there is a file at all.
But a file that can be loaded is there (`exists?_of_load`), and a connection that has not started
has the default settings, so a start comes to the settings of the first caller in every case
(`config_runOver_start`), and the connection keeps them. -/
namespace GraphLint
open Files

namespace Config
variable {fs fs' : FileSystem} {path text text' : Text} {es es' : Toml.Entries} {config : Config}

/-- A file cannot be used for settings. -/
inductive IsUnusable (fs : FileSystem) (path : Text) : Prop
  | unreadable {cause : FileError} (h : fs.read path = .error cause)
  | notText {content : List UInt8} (hread : fs.read path = .ok content)
      (h : Text.decode? content = none)
  | malformed {text : Text} (htext : fs.readText path = .ok text) (h : Toml.parse? text = none)
  | badValue {text : Text} {es : Toml.Entries} (htext : fs.readText path = .ok text)
      (hes : Toml.parse? text = some es) (h : HasBadValue es)

/-! ## What fails a load -/

theorem load_of_readText_eq_error {cause : FileError} (h : fs.readText path = .error cause) :
    load fs path = .error (.fileRead path cause) := by
  rw [load, h]

theorem load_of_ofText?_eq_none (htext : fs.readText path = .ok text) (h : ofText? text = none) :
    load fs path = .error (.configParse path) := by
  rw [load, htext]
  simp only [h]

theorem load_of_ofText?_eq_some (htext : fs.readText path = .ok text)
    (h : ofText? text = some config) : load fs path = .ok config := by
  rw [load, htext]
  simp only [h]

theorem ofText?_of_parse? (hes : Toml.parse? text = some es) : ofText? text = ofEntries? es := by
  rw [ofText?, hes, Option.bind_some]

theorem ofText?_eq_none_iff : ofText? text = none ↔
    Toml.parse? text = none ∨ ∃ es, Toml.parse? text = some es ∧ HasBadValue es := by
  rw [ofText?]
  cases Toml.parse? text with
  | none => exact iff_of_true rfl (.inl rfl)
  | some es =>
    rw [Option.bind_some, ofEntries?_eq_none_iff]
    constructor
    · intro h
      exact .inr ⟨es, rfl, h⟩
    · rintro (h | ⟨es', hes, h⟩)
      · cases h
      · exact Option.some.inj hes ▸ h

/-- A file has no text if it cannot be read or is no text. -/
theorem exists_readText_eq_error_iff : (∃ cause, fs.readText path = .error cause) ↔
    (∃ cause, fs.read path = .error cause) ∨
      ∃ content, fs.read path = .ok content ∧ Text.decode? content = none := by
  rw [FileSystem.readText]
  cases fs.read path with
  | error cause => exact iff_of_true ⟨cause, rfl⟩ (.inl ⟨cause, rfl⟩)
  | ok content =>
    cases hdecode : Text.decode? content with
    | none =>
      simp only [hdecode]
      exact iff_of_true ⟨.notText, rfl⟩ (.inr ⟨content, rfl, hdecode⟩)
    | some text =>
      simp only [hdecode]
      constructor
      · rintro ⟨cause, h⟩
        cases h
      · rintro (⟨cause, h⟩ | ⟨content', h, hnone⟩)
        · cases h
        · cases h
          cases hdecode.symm.trans hnone

/-- **What fails a load**, and nothing else does. -/
theorem exists_load_eq_error_iff : (∃ e, load fs path = .error e) ↔ IsUnusable fs path := by
  constructor
  · rintro ⟨e, he⟩
    cases htext : fs.readText path with
    | error cause =>
      rcases exists_readText_eq_error_iff.mp ⟨cause, htext⟩ with ⟨cause, h⟩ | ⟨content, h, hnone⟩
      · exact .unreadable h
      · exact .notText h hnone
    | ok text =>
      cases hof : ofText? text with
      | some config => cases (load_of_ofText?_eq_some htext hof).symm.trans he
      | none =>
        rcases ofText?_eq_none_iff.mp hof with hparse | ⟨es, hparse, hbad⟩
        · exact .malformed htext hparse
        · exact .badValue htext hparse hbad
  · intro h
    cases h with
    | @unreadable cause h =>
      obtain ⟨cause, hcause⟩ := exists_readText_eq_error_iff.mpr (.inl ⟨cause, h⟩)
      exact ⟨_, load_of_readText_eq_error hcause⟩
    | @notText content hread h =>
      obtain ⟨cause, hcause⟩ := exists_readText_eq_error_iff.mpr (.inr ⟨content, hread, h⟩)
      exact ⟨_, load_of_readText_eq_error hcause⟩
    | malformed htext h =>
      exact ⟨_, load_of_ofText?_eq_none htext (ofText?_eq_none_iff.mpr (.inl h))⟩
    | @badValue text es htext hes h =>
      exact ⟨_, load_of_ofText?_eq_none htext (ofText?_eq_none_iff.mpr (.inr ⟨es, hes, h⟩))⟩

/-- Tables that are the same up to keys that are not known are loaded alike. -/
theorem load_congr (htext : fs.readText path = .ok text) (hes : Toml.parse? text = some es)
    (htext' : fs'.readText path = .ok text') (hes' : Toml.parse? text' = some es')
    (h : SameKnown es es') : load fs path = load fs' path := by
  rw [load, htext, load, htext']
  simp only [ofText?_of_parse? hes, ofText?_of_parse? hes', ofEntries?_congr h]

/-! ## The callers -/

theorem loadOrDefault_of_load_eq_error {e : LintError} (h : load fs path = .error e) :
    loadOrDefault fs path = {} := by
  rw [loadOrDefault, h]

/-- A file that can be loaded is there. -/
theorem exists?_of_load (h : load fs path = .ok config) : fs.exists? path = true := by
  rw [load, FileSystem.readText, FileSystem.read] at h
  rw [FileSystem.exists?, FileSystem.node?]
  cases hlocate : fs.locate path with
  | error e =>
    rw [hlocate] at h
    cases h
  | ok found => rfl

end Config

namespace Server
variable {fs : FileSystem} {path : Text} {root : Option Uri}

/-- A start takes the settings of its workspace over the defaults. -/
theorem config_start_of_configPath? {s : Server} {i : Nat} (hpath : configPath? root = some path)
    (hdefault : (s.connections i).config = {}) :
    ((s.start fs i root).server.connections i).config = Config.loadOrDefault fs path := by
  rw [start, workspaceConfig?, hpath, Option.bind_some, Config.loadOrDefault]
  cases hload : Config.load fs path with
  | ok config => simp [Config.exists?_of_load hload]
  | error e =>
    -- where there is no file the settings stay as they are, too
    cases fs.exists? path with
    | false => simpa using hdefault
    | true => simpa using hdefault

/-- **A connection that was started has the settings of its workspace or the defaults**, and keeps
them. -/
theorem config_runOver_start {before : List Arrival} {i : Nat}
    (hfresh : ((runOver {} before).connections i).phase = .fresh)
    (hpath : configPath? root = some path) (after : List Arrival) :
    ((runOver {} (before ++ ⟨fs, i, .call (.start root)⟩ :: after)).connections i).config =
      Config.loadOrDefault fs path := by
  have hstart : ((runOver {} before).arrive ⟨fs, i, .call (.start root)⟩).server =
      ((runOver {} before).start fs i root).server := by
    simp only [arrive, step, hfresh]
    rfl
  have hstarted : (((runOver {} before).start fs i root).server.connections i).phase ≠ .fresh := by
    rw [phase_start]
    decide
  rw [runOver_append, runOver_cons, hstart, config_runOver hstarted]
  exact config_start_of_configPath? hpath (config_of_fresh hfresh)

end Server

namespace Config

/-- What becomes of the settings file at a path. -/
structure IsLoadedWhole (fs : FileSystem) (path : Text) : Prop where
  /-- A table of the expected form is laid over the defaults, in one way only. -/
  overlaid : ∀ text es, fs.readText path = .ok text → Toml.parse? text = some es → IsTyped es →
    ∃ config, load fs path = .ok config ∧ Overlays es config ∧
      ∀ other, Overlays es other → other = config
  /-- Keys that are not known make no difference, on either level. -/
  unknown : ∀ fs' text text' es es', fs.readText path = .ok text → Toml.parse? text = some es →
    fs'.readText path = .ok text' → Toml.parse? text' = some es' → SameKnown es es' →
    load fs path = load fs' path
  /-- A load fails if something is wrong with the file, and only then. -/
  failed : (∃ e, load fs path = .error e) ↔ IsUnusable fs path
  /-- A load that fails leaves the defaults. -/
  replaced : ∀ e, load fs path = .error e → loadOrDefault fs path = {}
  /-- A server goes on with the defaults, too: those of a connection that is started with the file
  in its workspace are in place from then on. -/
  served : ∀ e, load fs path = .error e → ∀ before i root after,
    ((Server.runOver {} before).connections i).phase = .fresh →
    Server.configPath? root = some path →
    ((Server.runOver {} (before ++ ⟨fs, i, .call (.start root)⟩ :: after)).connections i).config =
      {}

/-- **Settings are loaded whole or not at all.** -/
theorem loaded_whole (fs : FileSystem) (path : Text) : IsLoadedWhole fs path where
  overlaid text es htext hes htyped := by
    obtain ⟨config, hconfig⟩ := htyped.exists_overlays
    have hof := (ofText?_of_parse? hes).trans (ofEntries?_eq_some_iff.mpr hconfig)
    exact ⟨config, load_of_ofText?_eq_some htext hof, hconfig, fun other h => h.unique hconfig⟩
  unknown fs' text text' es es' htext hes htext' hes' h := load_congr htext hes htext' hes' h
  failed := exists_load_eq_error_iff
  replaced e h := loadOrDefault_of_load_eq_error h
  served e h before i root after hfresh hpath := by
    rw [Server.config_runOver_start hfresh hpath after]
    exact loadOrDefault_of_load_eq_error h

/-- A workspace at `/w` with nothing but a settings file. -/
def workspaceWith (text : Text) : FileSystem where
  root := .directory [(['w'], .directory [(fileName, .file (Text.encode text))])]
  working := [['w']]

/-- The URI of that workspace. -/
def workspaceUri : Uri := ⟨"file".toList, none, .segments [['w']], none, none⟩

/-- A file that sets one key, with an unknown key on each level. -/
def partialFile : Text := "other = 1\n[rules]\nschema = false\nother = 1\n".toList

/-- The table of that file. -/
def partialTable : Toml.Entries :=
  [("other".toList, .number), ("rules".toList, .table .header
    [("schema".toList, .boolean false), ("other".toList, .number)])]

/-- A file with one bad value beside a good one. -/
def brokenFile : Text := "exclude = []\nfile_extensions = [\"kro\", 1]\n".toList

/-- The table of that file. -/
def brokenTable : Toml.Entries :=
  [("exclude".toList, .list []), ("file_extensions".toList, .list [.text "kro".toList, .number])]

theorem isTyped_partialTable : IsTyped partialTable where
  rules v hv := by
    obtain rfl := Option.some.inj hv
    refine ⟨_, _, rfl, nofun, fun v hv => ?_, nofun⟩
    obtain rfl := Option.some.inj hv
    exact ⟨false, rfl⟩
  fileExtensions := nofun
  exclude := nofun

theorem overlays_partialTable : Overlays partialTable { rules := { schema := false } } where
  rules := .found (.table ⟨.missing, .found rfl, .missing⟩)
  fileExtensions := .missing
  exclude := .missing

theorem hasBadValue_brokenTable : HasBadValue brokenTable := by
  refine .fileExtensions ⟨_, rfl, fun ts h => ?_⟩
  have hmem : Toml.Value.number ∈ ts.map Toml.Value.text := by
    rw [← Toml.Value.list.inj h]
    simp
  obtain ⟨t, -, ht⟩ := List.mem_map.mp hmem
  cases ht

/-- The settings of the first file, and those that a server goes on with where the second one
stands. -/
theorem loaded_whole_twoFiles :
    load (workspaceWith partialFile) "/w/.kro-lsp.toml".toList =
        .ok { rules := { schema := false } } ∧
      ((Server.runOver {} [⟨workspaceWith brokenFile, 0,
        .call (.start (some workspaceUri))⟩]).connections 0).config = {} := by
  constructor
  · have htext : (workspaceWith partialFile).readText "/w/.kro-lsp.toml".toList =
        .ok partialFile := by
      decide +kernel
    have hes : Toml.parse? partialFile = some partialTable := by rfl
    obtain ⟨config, hload, -, hunique⟩ :=
      (loaded_whole _ _).overlaid partialFile partialTable htext hes isTyped_partialTable
    rw [hload, hunique _ overlays_partialTable]
  · have htext : (workspaceWith brokenFile).readText "/w/.kro-lsp.toml".toList =
        .ok brokenFile := by
      decide +kernel
    have hes : Toml.parse? brokenFile = some brokenTable := by rfl
    obtain ⟨e, he⟩ := (loaded_whole _ _).failed.mpr (.badValue htext hes hasBadValue_brokenTable)
    exact (loaded_whole _ _).served e he [] 0 (some workspaceUri) [] rfl (by decide +kernel)

end Config
end GraphLint
