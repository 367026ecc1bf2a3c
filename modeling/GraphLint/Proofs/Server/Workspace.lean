import GraphLint.Command.Check
import GraphLint.Proofs.Files.Tree
import GraphLint.Proofs.Server.Publication
/-! # The settings of a workspace

A connection that has not started has the default settings (`config_of_fresh`), a start gives it
those of its workspace, and from then on it keeps them (`config_runOver`).  A check in a directory
takes its settings from the file there, too, by other means: it looks for the file by its name alone
and puts the default settings in the place of a file that it cannot use, while a start looks below
the path in the URI of its root and leaves the settings as they are.  Both come to the same settings
whatever is at the place of the settings file (`config_start`): what stands there is looked up in the
same way (`stopAt_child`), and what a start leaves as it is are the default settings. -/
namespace GraphLint.Server
open Files

/-! ## One connection -/

section
variable (fs : FileSystem) (s : Server) (i : Nat)

/-- A connection that is fresh after a message is as it was before. -/
theorem connections_step_of_fresh {j : Nat} (m : Message)
    (h : ((s.step fs i m).server.connections j).phase = .fresh) :
    (s.step fs i m).server.connections j = s.connections j := by
  by_cases hj : j = i
  · -- nothing makes a connection fresh again, and of what reaches a fresh one only a start or an
    -- exit changes it
    subst hj
    have hbefore : (s.connections j).phase = .fresh := by
      apply Classical.byContradiction
      intro hne
      exact phase_step_ne_fresh fs s j hne m h
    unfold step at h ⊢
    rw [hbefore] at h ⊢
    cases m with
    | call c =>
      cases c with
      | start root =>
        have hrunning := phase_start fs s j root
        exact absurd (hrunning.symm.trans h) nofun
      | _ => rfl
    | notice n =>
      cases n with
      | exit =>
        simp only [exit, setConnection_self] at h
        cases h
      | _ => rfl
  · exact connections_step_of_ne fs s i m hj

end

theorem runOver_append (s : Server) (first second : List Arrival) :
    runOver s (first ++ second) = runOver (runOver s first) second := List.foldl_append

theorem runOver_cons (s : Server) (a : Arrival) (arrivals : List Arrival) :
    runOver s (a :: arrivals) = runOver (s.arrive a).server arrivals := rfl

/-- **A connection that has not started has the default settings.** -/
theorem config_of_fresh {arrivals : List Arrival} {i : Nat}
    (h : ((runOver {} arrivals).connections i).phase = .fresh) :
    ((runOver {} arrivals).connections i).config = {} := by
  induction arrivals using List.reverseRecOn with
  | nil => rfl
  | append_singleton arrivals a ih =>
    rw [runOver_concat] at h ⊢
    have hsame := connections_step_of_fresh a.files (runOver {} arrivals) a.connection a.message h
    rw [arrive, hsame] at h ⊢
    exact ih h

/-- **A connection keeps its settings in a run.** -/
theorem config_runOver {s : Server} {i : Nat} (h : (s.connections i).phase ≠ .fresh)
    (arrivals : List Arrival) :
    ((runOver s arrivals).connections i).config = (s.connections i).config := by
  induction arrivals generalizing s with
  | nil => rfl
  | cons a rest ih =>
    have hphase := phase_step_ne_fresh a.files s a.connection h a.message
    exact (ih hphase).trans (config_step a.files s a.connection h a.message)

/-! ## Two ways to the settings -/

/-- A URI names a place: the path of the file that it names is one of the place. -/
def Names (u : Uri) (place : List Text) : Prop :=
  ∃ path, u.filePath? = some path ∧ samePath path (absolute place) = true

theorem isName_fileName : IsName Config.fileName := by decide

section
variable {fs : FileSystem}

/-- What depends on where a path leads only is the same for paths that lead to the same. -/
theorem readText_congr {p q : Text} (h : fs.stopAt p = fs.stopAt q) :
    fs.readText p = fs.readText q := by
  simp only [FileSystem.readText, FileSystem.read, FileSystem.locate, h]

theorem exists?_congr {p q : Text} (h : fs.stopAt p = fs.stopAt q) :
    fs.exists? p = fs.exists? q := by
  simp only [FileSystem.exists?, FileSystem.node?, FileSystem.locate, h]

/-- **A start and a check come to the same settings** in the working directory. -/
theorem config_start {node : Node} {root : Uri} {config : Config} {s : Server} {i : Nat}
    (hnode : fs.root.at? fs.working = some node) (hdirectory : node.isDirectory = true)
    (hworking : ∀ n ∈ fs.working, IsName n) (hroot : Names root fs.working)
    (hdefault : (s.connections i).config = {})
    (hconfig : Command.configFor fs none = .ok config) :
    ((s.start fs i (some root)).server.connections i).config = config := by
  obtain ⟨path, hpath, hsame⟩ := hroot
  have hstop := FileSystem.stopAt_child hnode hdirectory hworking hsame isName_fileName
  have hplace : configPath? (some root) = some (child path Config.fileName) := by
    rw [configPath?, Option.bind_some, hpath]
    rfl
  rw [Command.configFor] at hconfig
  obtain rfl := Except.ok.inj hconfig
  rw [start, workspaceConfig?, hplace, Option.bind_some, exists?_congr hstop]
  -- where a start takes no settings, those that the connection has are the defaults of a check
  cases fs.exists? Config.fileName with
  | false => simpa using hdefault
  | true =>
    simp only [if_true, Config.loadOrDefault, Config.load, readText_congr hstop]
    cases fs.readText Config.fileName with
    | error cause => simpa using hdefault
    | ok text =>
      cases hread : Config.ofText? text with
      | none => simpa [hread] using hdefault
      | some config => simp [hread]

end
end GraphLint.Server
