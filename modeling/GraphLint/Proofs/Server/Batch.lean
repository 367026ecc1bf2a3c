import GraphLint.Proofs.Server.Publication
/-! # Several changes in one notice

A client may send several texts of a document in one notice, each of them the whole text.  The server
takes the first of them and leaves the others alone.  So a notice does what its first text alone does
(`step_firstOnly`), and a run in which every notice is cut to its first text ends with the same server
and the same publications (`runOver_firstOnly`, `publications_firstOnly`); its documents are those that
the first texts leave (`get?_run_firstOnly`).  After a change the text that is stored, and the one that
the published findings are about, is therefore the last one sent exactly if the first one is the same
text (`change_keepsFirst`). -/
namespace GraphLint.Server

/-! ## Cutting a batch -/

/-- A notice with the first of its changes only. -/
def Notice.firstOnly : Notice → Notice
  | .changed uri texts => .changed uri (texts.take 1)
  | n => n

/-- A message with the first of its changes only. -/
def Message.firstOnly : Message → Message
  | .notice n => .notice n.firstOnly
  | .call c => .call c

/-- An arrival with the first of its changes only. -/
def Arrival.firstOnly (a : Arrival) : Arrival := { a with message := a.message.firstOnly }

theorem Message.isSingle_firstOnly (m : Message) : m.firstOnly.IsSingle := by
  intro uri texts h
  cases m with
  | call c => cases h
  | notice n =>
    cases n with
    | changed v all =>
      obtain ⟨-, rfl⟩ := Notice.changed.inj (Message.notice.inj h)
      rw [List.length_take]
      exact Nat.min_le_left ..
    | _ => cases h

theorem noticeRunning_firstOnly (s : Server) (i : Nat) (n : Notice) :
    s.noticeRunning i n.firstOnly = s.noticeRunning i n := by
  cases n with
  | changed uri texts => cases texts <;> rfl
  | _ => rfl

/-- **A message does what its first change does.** -/
theorem step_firstOnly (fs : Files.FileSystem) (s : Server) (i : Nat) (m : Message) :
    s.step fs i m.firstOnly = s.step fs i m := by
  cases m with
  | call c => rfl
  | notice n =>
    have hrunning := noticeRunning_firstOnly s i n
    unfold step
    -- only on a running connection the changes are looked at
    cases hphase : (s.connections i).phase <;> cases n <;> first | rfl | exact hrunning

theorem arrive_firstOnly (s : Server) (a : Arrival) : s.arrive a.firstOnly = s.arrive a :=
  step_firstOnly a.files s a.connection a.message

/-- **A run is the same run when each of its batches is cut.** -/
theorem runOver_firstOnly (s : Server) (arrivals : List Arrival) :
    runOver s (arrivals.map Arrival.firstOnly) = runOver s arrivals := by
  rw [runOver, List.foldl_map]
  simp only [arrive_firstOnly]
  rfl

theorem publications_firstOnly (s : Server) (arrivals : List Arrival) :
    publications s (arrivals.map Arrival.firstOnly) = publications s arrivals := by
  induction arrivals generalizing s with
  | nil => rfl
  | cons a rest ih =>
    rw [List.map_cons, publications, publications, publishedBy, arrive_firstOnly, ih]
    rfl

/-- **The document under a URI after any run** is what the heeded notices about it leave, each with
the first of its changes only. -/
theorem get?_run_firstOnly (fs : Files.FileSystem) (messages : List (Nat × Message)) (u : Uri) :
    (run fs {} messages).documents.get? u =
      documentAfter u (heeded (messages.map fun m => (m.1, m.2.firstOnly))) := by
  have hcut : run fs {} (messages.map fun m => (m.1, m.2.firstOnly)) = run fs {} messages := by
    rw [run_eq_runOver, run_eq_runOver,
      ← runOver_firstOnly {} (messages.map fun m => ⟨fs, m.1, m.2⟩), List.map_map, List.map_map]
    rfl
  rw [← hcut]
  refine get?_run fs (fun m hm => ?_) u
  obtain ⟨sent, -, rfl⟩ := List.mem_map.mp hm
  exact sent.2.isSingle_firstOnly

/-! ## One change -/

/-- A change of a document that is heeded: the run before it, and the live connection that sends one
text or more. -/
structure Change where
  arrivals : List Arrival
  files : Files.FileSystem
  connection : Nat
  uri : Uri
  texts : List Text
  live : IsLive (sentBy connection (arrivals.map Arrival.sent))
  texts_ne_nil : texts ≠ []

namespace Change

/-- The server that gets the change. -/
def server (c : Change) : Server := runOver {} c.arrivals

/-- The change as it arrives. -/
def arrival (c : Change) : Arrival := ⟨c.files, c.connection, .notice (.changed c.uri c.texts)⟩

/-- The document that is stored after the change. -/
def stored? (c : Change) : Option Document :=
  (runOver {} (c.arrivals ++ [c.arrival])).documents.get? c.uri

/-- The first text that is sent. -/
def first (c : Change) : Text := c.texts.head c.texts_ne_nil

/-- The last text that is sent. -/
def last (c : Change) : Text := c.texts.getLast c.texts_ne_nil

/-- The findings about a text, as the connection has to be shown them. -/
def findings (c : Change) (text : Text) : List Diagnostic :=
  Validation.validateDocument (c.server.connections c.connection).config c.uri.print text

theorem step_arrival (c : Change) : c.server.arrive c.arrival =
    c.server.publishing c.connection c.uri (c.server.documents.insertText c.uri c.first) := by
  have hrunning : (c.server.connections c.connection).phase = .running :=
    phase_runOver_eq_running_iff.mpr c.live
  have hne : Notice.changed c.uri c.texts ≠ .exit := nofun
  obtain ⟨text, rest, htexts⟩ := List.exists_cons_of_ne_nil c.texts_ne_nil
  have hfirst : c.first = text := by simp only [first, htexts, List.head_cons]
  rw [arrive, arrival, step_notice_of_running _ _ _ hrunning hne, htexts, hfirst]
  rfl

theorem stored?_eq (c : Change) :
    c.stored? = some ⟨c.uri.print, c.first, c.server.documents.language c.uri⟩ := by
  have harrive := c.step_arrival
  rw [stored?, runOver_concat]
  change (c.server.arrive c.arrival).server.documents.get? c.uri = _
  rw [harrive]
  exact Registry.get?_insert_self ..

theorem publishedBy_arrival (c : Change) :
    publishedBy c.server c.arrival = [⟨c.connection, c.uri, c.findings c.first⟩] := by
  have hget : (c.server.documents.insertText c.uri c.first).get? c.uri =
      some ⟨c.uri.print, c.first, c.server.documents.language c.uri⟩ :=
    Registry.get?_insert_self ..
  rw [publishedBy, c.step_arrival]
  change publishedOn c.connection _ = _
  rw [publishedOn_publishing, hget]
  simp only [Option.isSome_some, if_true, Option.toList_some, List.map_cons, List.map_nil,
    dueFindings, publishing, hget]
  rfl

/-- What becomes of the texts of a change. -/
structure KeepsFirst (c : Change) : Prop where
  /-- The first one is stored, in the language that is known for the document, -/
  stored_eq : c.stored? = some ⟨c.uri.print, c.first, c.server.documents.language c.uri⟩
  /-- and the findings about it are published, once and on the connection that sent the change. -/
  published_eq : publishedBy c.server c.arrival = [⟨c.connection, c.uri, c.findings c.first⟩]
  /-- The last one is stored exactly if it is the same text, -/
  stored_last_iff : (∃ d, c.stored? = some d ∧ d.text = c.last) ↔ c.first = c.last
  /-- and what is published is about it exactly if the findings about both are the same. -/
  published_last_iff : publishedBy c.server c.arrival = [⟨c.connection, c.uri, c.findings c.last⟩] ↔
    c.findings c.first = c.findings c.last
  /-- However the run goes on, the server is what it is if nothing is sent behind the first text of a
  notice, -/
  runOver_eq : ∀ later, runOver {} ((c.arrivals ++ c.arrival :: later).map Arrival.firstOnly) =
    runOver {} (c.arrivals ++ c.arrival :: later)
  /-- and what is published along it is the same, too. -/
  publications_eq : ∀ later,
    publications {} ((c.arrivals ++ c.arrival :: later).map Arrival.firstOnly) =
      publications {} (c.arrivals ++ c.arrival :: later)

end Change

/-- **A notice counts for the first of its changes.**  After every change that is heeded, its first
text is stored and is the one that the published findings are about: the last one is, exactly if it is
the same text.  What is sent behind the first text makes no difference, now or later. -/
theorem change_keepsFirst (c : Change) : c.KeepsFirst where
  stored_eq := c.stored?_eq
  published_eq := c.publishedBy_arrival
  stored_last_iff := by
    rw [c.stored?_eq]
    constructor
    · rintro ⟨d, hd, hlast⟩
      obtain rfl := Option.some.inj hd
      exact hlast
    · exact fun h => ⟨_, rfl, h⟩
  published_last_iff := by
    rw [c.publishedBy_arrival]
    simp
  runOver_eq later := runOver_firstOnly {} _
  publications_eq later := publications_firstOnly {} _

/-- A graph is opened and then sent twice in one notice, first with a wrong kind and then as it should
be. -/
def hastyChange : Change where
  arrivals := [⟨⟨.directory [], []⟩, 0, .call (.start none)⟩,
    ⟨⟨.directory [], []⟩, 0, .notice (.opened ⟨['f'], none, .flat "a.kro".toList, none, none⟩
      "kro".toList "kind: Foo\n".toList)⟩]
  files := ⟨.directory [], []⟩
  connection := 0
  uri := ⟨['f'], none, .flat "a.kro".toList, none, none⟩
  texts := ["kind: Foo\n".toList,
    ("apiVersion: kro.run/v1alpha1\nkind: ResourceGraphDefinition\n" ++
      "metadata:\n  name: a\nspec:\n  resources:\n").toList]
  live := by decide
  texts_ne_nil := List.cons_ne_nil _ _

/-- The text with the wrong kind stays, and so do its findings, although the last text has none. -/
theorem hastyChange_lastLost :
    (∃ d, hastyChange.stored? = some d ∧ d.text ≠ hastyChange.last) ∧
      hastyChange.findings hastyChange.last = [] ∧
      publishedBy hastyChange.server hastyChange.arrival ≠
        [⟨0, hastyChange.uri, hastyChange.findings hastyChange.last⟩] := by
  have hstored := hastyChange.stored?_eq
  have hlast : hastyChange.findings hastyChange.last = [] := by decide +kernel
  have hfirst : hastyChange.findings hastyChange.first ≠ [] := by decide +kernel
  refine ⟨⟨_, hstored, by decide⟩, hlast, ?_⟩
  rw [hastyChange.publishedBy_arrival, hlast]
  simpa [hastyChange] using hfirst

end GraphLint.Server
