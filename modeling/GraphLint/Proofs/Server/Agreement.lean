import GraphLint.Proofs.Command.Check
import GraphLint.Proofs.Files.Walk
import GraphLint.Proofs.Project.Extension
import GraphLint.Proofs.Server.Workspace
import GraphLint.Proofs.Uri.File
/-! # The server and the command agree

A file of a workspace is looked at in two ways.  A check in the root of the workspace finds it in a
walk and reports the findings about its text among those about all other files; a server whose
connection was started with that root is sent the text under the URI of the file and publishes the
findings about it.  Both use the same settings (`config_start`), and both look at the file: the path
that the walk writes and the URI end in the same extension (`accepts_fileText`).  What the check
reports about the file are the findings about its text (`foundAbout_perm`), and these are what the
opening of the document has published (`publishedBy_opened`).  Only the order may differ. -/
namespace GraphLint.Server
open Files Command

/-! ## Extensions -/

section
variable {config : Config} {set : Uri.EncodeSet}

theorem exists_suffix_of_accepts {path : Text} (hquery : '?' ∉ path) (hfragment : '#' ∉ path)
    (h : config.accepts path = true) : ∃ e ∈ config.fileExtensions, '.' :: e <:+ path := by
  have hunmarked : ∀ c ∈ path, ¬ Config.IsMark c := by
    rintro c hc (rfl | rfl)
    · exact hquery hc
    · exact hfragment hc
  exact (Config.accepts_iff (Config.isHead_self hunmarked)).mp h

/-- A path below the working directory is accepted for the extension that its last name has. -/
theorem exists_name_of_accepts {names : List Text}
    (hextensions : ∀ e ∈ config.fileExtensions, e ≠ [] ∧ e.all Char.isAlphanum = true)
    (hquery : '?' ∉ descend ['.'] names) (hfragment : '#' ∉ descend ['.'] names)
    (h : config.accepts (descend ['.'] names) = true) :
    ∃ init name, names = init ++ [name] ∧ ∃ e ∈ config.fileExtensions, '.' :: e <:+ name := by
  obtain ⟨e, he, hsuffix⟩ := exists_suffix_of_accepts hquery hfragment h
  obtain ⟨hne, halphanum⟩ := hextensions e he
  rcases List.eq_nil_or_concat' names with rfl | ⟨init, name, rfl⟩
  · -- the working directory itself has no extension
    obtain ⟨c, e, rfl⟩ := List.exists_cons_of_ne_nil hne
    exact absurd hsuffix.length_le (by simp [descend])
  · have hslash : '/' ∉ '.' :: e := by
      rw [List.mem_cons, not_or]
      exact ⟨by decide, fun hmem => absurd (List.all_eq_true.mp halphanum '/' hmem) (by decide)⟩
    have hlast : descend ['.'] (init ++ [name]) = child (descend ['.'] init) name := by
      rw [descend, List.foldl_append]
      rfl
    have hinit : descend ['.'] init ≠ [] := by
      obtain ⟨rest, hrest⟩ := prefix_descend ['.'] init
      rw [← hrest]
      exact List.cons_ne_nil _ _
    rw [hlast] at hsuffix
    exact ⟨init, name, rfl, e, he, suffix_of_suffix_child hinit hslash hsuffix⟩

/-- **The URI of a file is accepted if its name has an extension**, where extensions are made of
letters and digits. -/
theorem accepts_fileText {init : List Text} {name e : Text} (hset : Uri.IsFileSet set)
    (he : e ∈ config.fileExtensions) (halphanum : e.all Char.isAlphanum = true)
    (h : '.' :: e <:+ name) : config.accepts (Uri.fileText set (init ++ [name])) = true := by
  rw [Config.accepts, Uri.takeWhile_fileText hset]
  exact List.any_eq_true.mpr
    ⟨e, he, List.isSuffixOf_iff_suffix.mpr
      (Uri.suffix_fileText hset (List.all_eq_true.mp halphanum) h)⟩

end

/-! ## Sessions -/

/-- A run in which a connection starts with a root and is neither stopped nor exited afterwards.
Other connections may do anything before and after the start, and the files may change. -/
structure Session (fs : FileSystem) (root : Uri) where
  connection : Nat
  before : List Arrival
  after : List Arrival
  fresh : ((runOver {} before).connections connection).phase = .fresh
  stays : ∀ a ∈ after, a.connection = connection →
    a.message.stops = false ∧ a.message.exits = false

namespace Session
variable {fs : FileSystem} {root : Uri} (session : Session fs root)

/-- The server at the end of a session. -/
def server : Server :=
  runOver {}
    (session.before ++ ⟨fs, session.connection, .call (.start (some root))⟩ :: session.after)

theorem server_eq : session.server =
    runOver ((runOver {} session.before).start fs session.connection (some root)).server
      session.after := by
  have hstep : (runOver {} session.before).step fs session.connection (.call (.start (some root))) =
      (runOver {} session.before).start fs session.connection (some root) := by
    unfold step
    rw [session.fresh]
    rfl
  rw [server, runOver_append, runOver_cons, arrive, hstep]

theorem phase_server : (session.server.connections session.connection).phase = .running := by
  rw [server_eq, phase_runOver, phase_start, foldl_after_running_iff]
  intro m hm
  obtain ⟨sent, hsent, rfl⟩ := List.mem_map.mp hm
  obtain ⟨hmem, hconnection⟩ := List.mem_filter.mp hsent
  obtain ⟨a, ha, rfl⟩ := List.mem_map.mp hmem
  exact session.stays a ha (of_decide_eq_true hconnection)

/-- **At the end of a session a connection has the settings that a check in the root has.** -/
theorem config_server {node : Node} {config : Config}
    (hnode : fs.root.at? fs.working = some node) (hdirectory : node.isDirectory = true)
    (hworking : ∀ n ∈ fs.working, IsName n) (hroot : Names root fs.working)
    (hconfig : configFor fs none = .ok config) :
    (session.server.connections session.connection).config = config := by
  have hstarted := phase_start fs (runOver {} session.before) session.connection (some root)
  rw [server_eq, config_runOver (by rw [hstarted]; exact nofun)]
  exact config_start hnode hdirectory hworking hroot (config_of_fresh session.fresh) hconfig

end Session

/-- The opening of a document has the findings about its text published. -/
theorem publishedBy_opened {s : Server} {i : Nat} (h : (s.connections i).phase = .running)
    (files : FileSystem) (uri : Uri) (language text : Text) :
    publishedBy s ⟨files, i, .notice (.opened uri language text)⟩ =
      [⟨i, uri, Validation.validateDocument (s.connections i).config uri.print text⟩] := by
  have hne : Notice.opened uri language text ≠ .exit := nofun
  have hstep := step_notice_of_running files s i h hne
  have hsent := publishedOn_noticeRunning s i (.opened uri language text)
  rw [publishedBy, arrive, hstep, hsent]
  simp only [Message.announces?, Option.toList_some, List.map_cons, List.map_nil, dueFindings,
    noticeRunning, publishing, Registry.get?_insert_self]

/-! ## Agreement -/

/-- A file that a check in the working directory looks at. -/
def IsSelected (fs : FileSystem) (config : Config) (file : Text) : Prop :=
  ∃ patterns, Project.readPatterns config.exclude = .ok patterns ∧ file ∈ walk fs ['.'] ∧
    Project.selects config patterns file = true

/-- The place of the file that a relative path names. -/
def placeOf (fs : FileSystem) (path : Text) : List Text := fs.working ++ namesOn path

/-- What a check has found about a file. -/
def foundAbout (file : Text) (found : List FileDiagnostic) : List Diagnostic :=
  (found.filter fun e => samePath e.file file).map (·.diagnostic)

/-- What a server publishes about a file, where a check has found this. -/
structure PublishesAsChecked (set : Uri.EncodeSet) (fs : FileSystem) (file : Text)
    (found : List FileDiagnostic) : Prop where
  /-- The root of the workspace has a URI, which names the working directory. -/
  root : Uri.read (Uri.fileText set fs.working) = .ok (.ofPlace set fs.working) ∧
    Names (.ofPlace set fs.working) fs.working
  /-- The file has a URI, which names its place. -/
  uri : Uri.read (Uri.fileText set (placeOf fs file)) = .ok (.ofPlace set (placeOf fs file)) ∧
    Names (.ofPlace set (placeOf fs file)) (placeOf fs file)
  /-- The file has a text, and it is the one at the place that the URI names. -/
  text : ∃ text, fs.readText file = .ok text ∧
    fs.readText (absolute (placeOf fs file)) = .ok text
  /-- Opening that text in a session publishes what was found about the file. -/
  published : ∀ text, fs.readText file = .ok text → ∀ root : Uri, Names root fs.working →
    ∀ (session : Session fs root) (files : FileSystem) (language : Text), ∃ p : Publication,
      publishedBy session.server ⟨files, session.connection,
        .notice (.opened (.ofPlace set (placeOf fs file)) language text)⟩ = [p] ∧
      p.connection = session.connection ∧ p.uri = .ofPlace set (placeOf fs file) ∧
      p.carried.Perm ((foundAbout file found).map ofDiagnostic)

section
variable {fs : FileSystem} {config : Config} {found : List FileDiagnostic} {request : CheckRequest}

theorem validate_of_findings (hpaths : request.paths = [['.']]) (hnone : request.config = none)
    (hconfig : configFor fs none = .ok config) (hfound : findings fs request = .ok found) :
    fs.exists? ['.'] = true ∧ Project.validate fs config ['.'] = .ok found := by
  obtain ⟨config', hconfig', hvalidate⟩ := exists_validate_of_findings hpaths hfound
  rw [hnone, hconfig] at hconfig'
  cases hconfig'
  exact hvalidate

/-- What a check has found about a selected file is what there is about its text. -/
theorem foundAbout_perm {file text : Text}
    (hwalk : (walk fs ['.']).Pairwise fun p q => samePath p q = false)
    (hvalidate : Project.validate fs config ['.'] = .ok found)
    (hselected : IsSelected fs config file) (htext : fs.readText file = .ok text) :
    (foundAbout file found).Perm (Validation.validate config text) := by
  obtain ⟨patterns, hpatterns, hmem, hselects⟩ := hselected
  obtain ⟨-, rfl⟩ := (Project.validateWalked_eq_ok_iff hpatterns).mp hvalidate
  have hsorted := Project.sort_perm
    (((walk fs ['.']).filter (Project.selects config patterns)).flatMap
      (Project.findingsIn fs config))
  have hperm := (hsorted.filter fun e => samePath e.file file).map (·.diagnostic)
  rw [Project.filter_flatMap_findingsIn (hwalk.filter _) (List.mem_filter.mpr ⟨hmem, hselects⟩),
    Project.map_diagnostic_findingsIn htext] at hperm
  exact hperm

/-- **The server publishes what a check reports.**  In a directory of a well-formed tree let a check
of `.` with the settings there succeed.  Whatever is at the place of the settings file, and for every
file that the check selects and whose path as it is walked has no question mark and no number sign,
a session with this directory as its root has findings about the text of the file published under
its URI that are those which the check reports about the file, perhaps in another order. -/
theorem publishesAsChecked_of_findings (set : Uri.EncodeSet) (fs : FileSystem)
    (request : CheckRequest) (config : Config) (found : List FileDiagnostic) (file : Text)
    (hset : Uri.IsFileSet set) (hfs : fs.root.WellFormed) (hpaths : request.paths = [['.']])
    (hnone : request.config = none) (hconfig : configFor fs none = .ok config)
    (hextensions : ∀ e ∈ config.fileExtensions, e ≠ [] ∧ e.all Char.isAlphanum = true)
    (hfound : findings fs request = .ok found) (hselected : IsSelected fs config file)
    (hquery : '?' ∉ file) (hfragment : '#' ∉ file) : PublishesAsChecked set fs file found := by
  obtain ⟨-, hvalidate⟩ := validate_of_findings hpaths hnone hconfig hfound
  obtain ⟨patterns, hpatterns, hmem, hselects⟩ := hselected
  -- the names behind the start of the walk are those of the place of the file
  obtain ⟨place, node, names, leaf, hlocate, hholds, rfl⟩ := exists_of_mem_walk hmem
  obtain ⟨rfl, rfl⟩ := Prod.ext_iff.mp (Except.ok.inj (FileSystem.locate_here.symm.trans hlocate))
  -- the last of them has an extension, which the URI ends in as well
  obtain ⟨init, name, rfl, e, he, hsuffix⟩ := exists_name_of_accepts hextensions hquery hfragment
    (Bool.and_eq_true_iff.mp hselects).1
  -- the working directory was not removed, since something was found in it
  have hnode : fs.root.at? fs.working = some (fs.directoryAt fs.working) := by
    obtain ⟨first, rest, hfirst⟩ := List.exists_cons_of_ne_nil (List.concat_ne_nil name init)
    rw [hfirst] at hholds
    exact (FileSystem.stands_directoryAt fs.working).at?_of_holds hholds
  have hdirectory : (fs.directoryAt fs.working).isDirectory = true :=
    FileSystem.isDirectory_directoryAt fs.working
  obtain ⟨hwellFormed, hworking⟩ := hfs.of_holds (Node.holds_of_at? hnode)
  have hnames := (hwellFormed.of_holds hholds).2
  have hplace : placeOf fs (descend ['.'] (init ++ [name])) = fs.working ++ init ++ [name] := by
    rw [placeOf, namesOn_descend hnames, List.append_assoc]
  have hall : ∀ n ∈ fs.working ++ (init ++ [name]), IsName n :=
    fun n hn => (List.mem_append.mp hn).elim (hworking n) (hnames n)
  have hchecked : IsSelected fs config (descend ['.'] (init ++ [name])) :=
    ⟨patterns, hpatterns, hmem, hselects⟩
  refine ⟨⟨Uri.read_fileText hset hworking, Uri.exists_filePath?_ofPlace hset⟩, ?_, ?_, ?_⟩
  · rw [hplace, List.append_assoc]
    exact ⟨Uri.read_fileText hset hall, Uri.exists_filePath?_ofPlace hset⟩
  · obtain ⟨text, htext⟩ :=
      ((Project.validateWalked_eq_ok_iff hpatterns).mp hvalidate).1 _ hmem hselects
    refine ⟨text, htext, ?_⟩
    rw [hplace, List.append_assoc, ← htext]
    exact readText_congr (FileSystem.stopAt_absolute hnode hdirectory hworking
      (List.concat_ne_nil name init) hnames)
  · intro text htext root hroot session files language
    have hsettings := session.config_server hnode hdirectory hworking hroot hconfig
    have haccepts : config.accepts (Uri.fileText set (fs.working ++ init ++ [name])) = true :=
      accepts_fileText hset he (hextensions e he).2 hsuffix
    have hwalk := walk_pairwise_samePath hlocate hwellFormed
    refine ⟨_, publishedBy_opened session.phase_server files _ language text, rfl, rfl, ?_⟩
    rw [Publication.carried, Validation.validateDocument, hsettings, hplace, Uri.print_ofPlace,
      if_pos haccepts]
    exact ((foundAbout_perm hwalk hvalidate hchecked htext).symm).map ofDiagnostic

end

/-- A workspace with an empty graph, and with a settings file that leaves nothing out. -/
def emptyGraph : FileSystem where
  root := .directory [("w".toList, .directory
    [("a.kro".toList, .file []), (Config.fileName, .file (Text.encode "exclude = []\n".toList))])]
  working := ["w".toList]

theorem wellFormed_emptyGraph : emptyGraph.root.WellFormed := by
  refine .directory (by decide) (by decide) fun e he => ?_
  rw [List.mem_singleton.mp he]
  refine .directory (by decide) (by decide) fun e he => ?_
  simp only [List.mem_cons, List.not_mem_nil, or_false] at he
  rcases he with rfl | rfl
  · exact .file _
  · exact .file _

theorem publishesAsChecked_of_findings_emptyGraph :
    Uri.IsFileSet Uri.unreservedSet ∧ emptyGraph.root.WellFormed ∧
    configFor emptyGraph none = .ok { exclude := [] } ∧
    IsSelected emptyGraph { exclude := [] } "./a.kro".toList ∧
    ∃ found, findings emptyGraph { paths := [['.']] } = .ok found ∧
      PublishesAsChecked Uri.unreservedSet emptyGraph "./a.kro".toList found := by
  have hconfig : configFor emptyGraph none = .ok { exclude := [] } := by decide +kernel
  have hwalk : walk emptyGraph ['.'] = ["./a.kro".toList] := by decide +kernel
  have hread : emptyGraph.readText "./a.kro".toList = .ok [] := by decide +kernel
  have hselected : IsSelected emptyGraph { exclude := [] } "./a.kro".toList :=
    ⟨[], rfl, hwalk ▸ List.mem_singleton_self _, by decide +kernel⟩
  obtain ⟨found, hvalidate⟩ :
      ∃ found, Project.validate emptyGraph { exclude := [] } ['.'] = .ok found := by
    refine ⟨_, Project.validateWalked_eq rfl fun p hp _ => ⟨[], ?_⟩⟩
    rw [hwalk] at hp
    rw [List.mem_singleton.mp hp, hread]
  have hfound : findings emptyGraph { paths := [['.']] } = .ok found := by
    rw [findings, hconfig]
    refine collect_eq_ok_iff.mpr ⟨[found], .cons ⟨by decide +kernel, hvalidate⟩ .nil, ?_⟩
    rw [List.flatten_singleton]
  exact ⟨Uri.isFileSet_unreservedSet, wellFormed_emptyGraph, hconfig, hselected, found, hfound,
    publishesAsChecked_of_findings Uri.unreservedSet emptyGraph { paths := [['.']] }
      { exclude := [] } found "./a.kro".toList Uri.isFileSet_unreservedSet wellFormed_emptyGraph rfl
      rfl hconfig (by decide) hfound hselected (by decide) (by decide)⟩

end GraphLint.Server
