import GraphLint.Proofs.Server.History
import GraphLint.Server.Wire
/-! # What editors have been shown

Whatever changes a document has the findings about it published, on the connection that sent the
change and with the settings of that connection.  The publications of a run are listed in order, and
of those about one document only the last one counts, since an editor replaces what it shows.

A server is `UpToDate` with its publications when the last one about each document says what the
connection that got it has to be shown now (`dueFindings`), and when a document without one is not
open.  Two facts about one step keep this up.  A step publishes about the document that it may
change and leaves all others alone (`step_publishes`), and a connection keeps its settings once it
has started (`config_step`), whatever becomes of the file that they came from, so what was right for
it stays right. -/
namespace GraphLint.Server

/-! ## Publications -/

/-- Findings that were published: on which connection, about which document, and what. -/
structure Publication where
  connection : Nat
  uri : Uri
  found : List Diagnostic
  deriving DecidableEq, Repr

/-- The findings of a publication as its message carries them. -/
def Publication.carried (p : Publication) : List Json := p.found.map ofDiagnostic

/-- What is published among the things that are sent on a connection. -/
def publishedOn (i : Nat) (sent : List Sent) : List Publication :=
  sent.filterMap fun
    | .publish uri found => some ⟨i, uri, found⟩
    | .log _ _ => none

/-- What is published when a message arrives. -/
def publishedBy (s : Server) (a : Arrival) : List Publication :=
  publishedOn a.connection (s.arrive a).sent

/-- The publications of a run, in order. -/
def publications : Server → List Arrival → List Publication
  | _, [] => []
  | s, a :: rest => publishedBy s a ++ publications (s.arrive a).server rest

/-- The last publication about a document. -/
def latest? (u : Uri) (ps : List Publication) : Option Publication :=
  (ps.filter (·.uri = u)).getLast?

theorem latest?_append_of_eq {u : Uri} {p : Publication} (h : p.uri = u) (ps : List Publication) :
    latest? u (ps ++ [p]) = some p := by
  rw [latest?, List.filter_append, List.filter_cons_of_pos (by simpa using h), List.filter_nil,
    List.getLast?_append_of_ne_nil _ (List.cons_ne_nil p []), List.getLast?_singleton]

theorem latest?_append_of_ne {u : Uri} {qs : List Publication} (h : ∀ q ∈ qs, q.uri ≠ u)
    (ps : List Publication) : latest? u (ps ++ qs) = latest? u ps := by
  have hnone : qs.filter (·.uri = u) = [] := by
    rw [List.filter_eq_nil_iff]
    intro q hq
    simpa using h q hq
  rw [latest?, List.filter_append, hnone, List.append_nil]
  rfl

theorem publications_concat (s : Server) (arrivals : List Arrival) (a : Arrival) :
    publications s (arrivals ++ [a]) =
      publications s arrivals ++ publishedBy (runOver s arrivals) a := by
  induction arrivals generalizing s with
  | nil => exact List.append_nil _
  | cons first rest ih =>
    rw [List.cons_append, publications, publications, ih, List.append_assoc]
    rfl

/-- The findings that a connection has to be shown about a document: those that its own settings
lead to, and none about a document that is not open. -/
def dueFindings (s : Server) (i : Nat) (u : Uri) : List Diagnostic :=
  match s.documents.get? u with
  | some d => Validation.validateDocument (s.connections i).config d.name d.text
  | none => []

/-! ## Steps -/

/-- The document that a message has findings published about, if it is heeded and `after` are the
open documents then. -/
def Message.announces? (after : Registry) : Message → Option Uri
  | .notice (.opened u _ _) => some u
  | .notice (.changed u (_ :: _)) => some u
  | .notice (.saved u _) => if (after.get? u).isSome then some u else none
  | .notice (.closed u) => some u
  | _ => none

section Step
variable (fs : Files.FileSystem) (s : Server) (i : Nat)

theorem publishedOn_step_call (c : Call) : publishedOn i (s.step fs i (.call c)).sent = [] := by
  unfold step
  cases (s.connections i).phase with
  | exited => rfl
  | fresh =>
    cases c with
    | start root =>
      -- a start may send a warning, which is no publication
      simp only [callFresh, start]
      split <;> rfl
    | _ => rfl
  | running => cases c <;> rfl
  | stopped => cases c <;> rfl

theorem publishedOn_step_notice (n : Notice) :
    publishedOn i (s.step fs i (.notice n)).sent =
      if (s.connections i).phase = .running then publishedOn i (s.noticeRunning i n).sent
      else [] := by
  unfold step
  cases (s.connections i).phase <;> cases n <;> rfl

/-- On a running connection every notice but an exit is heeded. -/
theorem step_notice_of_running {n : Notice} (h : (s.connections i).phase = .running)
    (hn : n ≠ .exit) : s.step fs i (.notice n) = s.noticeRunning i n := by
  unfold step
  rw [h]
  cases n with
  | exit => exact absurd rfl hn
  | _ => rfl

/-- What is published once the documents have changed are the findings that are due then. -/
theorem publishedOn_publishing (u : Uri) (documents : Registry) :
    publishedOn i (s.publishing i u documents).sent =
      (if (documents.get? u).isSome then some u else none).toList.map
        fun u => ⟨i, u, (s.publishing i u documents).server.dueFindings i u⟩ := by
  simp only [publishing, publication, dueFindings]
  cases h : documents.get? u with
  | none => rfl
  | some d =>
    simp only [Option.isSome_some, if_true, Option.toList_some, List.map_cons, List.map_nil, h]
    rfl

/-- **What a heeded notice publishes** are the findings that are due about the document it
announces. -/
theorem publishedOn_noticeRunning (n : Notice) :
    publishedOn i (s.noticeRunning i n).sent =
      ((Message.notice n).announces? (s.noticeRunning i n).server.documents).toList.map
        fun u => ⟨i, u, (s.noticeRunning i n).server.dueFindings i u⟩ := by
  cases n with
  | opened u language text =>
    refine (publishedOn_publishing s i u _).trans ?_
    rw [Registry.get?_insert_self]
    rfl
  | changed u texts =>
    cases texts with
    | nil => rfl
    | cons text rest =>
      refine (publishedOn_publishing s i u _).trans ?_
      rw [Registry.insertText, Registry.get?_insert_self]
      rfl
  | saved u text =>
    cases text with
    | none => exact publishedOn_publishing s i u _
    | some text => exact publishedOn_publishing s i u _
  | closed u =>
    have hdue : (s.noticeRunning i (.closed u)).server.dueFindings i u = [] := by
      simp only [noticeRunning, dueFindings, Registry.get?_erase_self]
    simp only [Message.announces?, Option.toList_some, List.map_cons, List.map_nil, hdue]
    rfl
  | _ => rfl

/-- A heeded notice that announces nothing leaves all documents as they are. -/
theorem get?_noticeRunning_of_announces?_eq_none {n : Notice}
    (h : (Message.notice n).announces? (s.noticeRunning i n).server.documents = none) (v : Uri) :
    (s.noticeRunning i n).server.documents.get? v = s.documents.get? v := by
  cases n with
  | changed u texts =>
    cases texts with
    | nil => rfl
    | cons text rest => cases h
  | saved u text =>
    cases text with
    | none => rfl
    | some text =>
      -- the text has just been stored, so the document is announced
      simp only [Message.announces?, noticeRunning, publishing, Registry.insertText,
        Registry.get?_insert_self] at h
      cases h
  | opened u language text => cases h
  | closed u => cases h
  | _ => rfl

/-- The document that a notice announces is the one it is about. -/
theorem subject?_of_announces? {n : Notice} {after : Registry} {u : Uri}
    (h : (Message.notice n).announces? after = some u) : n.subject? = some u := by
  cases n with
  | changed v texts =>
    cases texts with
    | nil => cases h
    | cons _ _ => exact h
  | saved v text =>
    simp only [Message.announces?] at h
    split at h
    · exact h
    · cases h
  | opened _ _ _ => exact h
  | closed _ => exact h
  | _ => cases h

/-- **A step publishes about the document that it may change.**  Either it publishes nothing and
leaves all documents alone, or its connection is running and gets the findings that are then due
about one document, while the others are left alone. -/
theorem step_publishes (m : Message) :
    (publishedOn i (s.step fs i m).sent = [] ∧
        ∀ v, (s.step fs i m).server.documents.get? v = s.documents.get? v) ∨
      ∃ u, (s.connections i).phase = .running ∧
        publishedOn i (s.step fs i m).sent = [⟨i, u, (s.step fs i m).server.dueFindings i u⟩] ∧
        ∀ v, v ≠ u → (s.step fs i m).server.documents.get? v = s.documents.get? v := by
  cases m with
  | call c =>
    refine Or.inl ⟨publishedOn_step_call fs s i c, fun v => ?_⟩
    rw [documents_step_call]
  | notice n =>
    have hsent := publishedOn_step_notice fs s i n
    have hdocs := documents_step_notice fs s i n
    by_cases hrun : (s.connections i).phase = .running
    · rw [if_pos hrun] at hsent hdocs
      rw [publishedOn_noticeRunning] at hsent
      cases hann : (Message.notice n).announces? (s.noticeRunning i n).server.documents with
      | none =>
        rw [hann] at hsent
        refine Or.inl ⟨hsent, fun v => ?_⟩
        rw [hdocs]
        exact get?_noticeRunning_of_announces?_eq_none s i hann v
      | some u =>
        have hsub := subject?_of_announces? hann
        have hstep : s.step fs i (.notice n) = s.noticeRunning i n :=
          step_notice_of_running fs s i hrun (by rintro rfl; cases hsub)
        rw [hann] at hsent
        refine Or.inr ⟨u, hrun, ?_, fun v hv => ?_⟩
        · rw [hsent, hstep]
          rfl
        · rw [hdocs]
          refine get?_noticeRunning_of_ne s i fun h => hv ?_
          exact Option.some.inj (h.symm.trans hsub)
    · rw [if_neg hrun] at hsent hdocs
      exact Or.inl ⟨hsent, fun v => by rw [hdocs]⟩

/-! ## Settings -/

/-- A connection that has started stays so. -/
theorem Phase.after_ne_fresh {p : Phase} (h : p ≠ .fresh) (m : Message) : p.after m ≠ .fresh := by
  intro hafter
  cases p with
  | fresh => exact h rfl
  | running =>
    simp only [Phase.after] at hafter
    split at hafter
    · cases hafter
    · split at hafter <;> cases hafter
  | stopped =>
    simp only [Phase.after] at hafter
    split at hafter <;> cases hafter
  | exited => cases hafter

theorem phase_step_ne_fresh {j : Nat} (h : (s.connections j).phase ≠ .fresh) (m : Message) :
    ((s.step fs i m).server.connections j).phase ≠ .fresh := by
  by_cases hj : j = i
  · subst hj
    rw [phase_step]
    exact Phase.after_ne_fresh h m
  · rw [connections_step_of_ne fs s i m hj]
    exact h

/-- **A connection keeps its settings** once it has started. -/
theorem config_step {j : Nat} (h : (s.connections j).phase ≠ .fresh) (m : Message) :
    ((s.step fs i m).server.connections j).config = (s.connections j).config := by
  by_cases hj : j = i
  · subst hj
    unfold step
    cases hp : (s.connections j).phase with
    | fresh => exact absurd hp h
    | exited => rfl
    | running =>
      cases m with
      | call c =>
        cases c with
        | stop => simp only [callRunning, stop, setConnection_self]
        | badStop reason => simp only [callRunning, stop, setConnection_self]
        | _ => rfl
      | notice n =>
        cases n with
        | exit => simp only [exit, setConnection_self]
        | _ => simp only [connections_noticeRunning]
    | stopped =>
      cases m with
      | call c => simp only [connections_callStopped]
      | notice n =>
        cases n with
        | exit => simp only [exit, setConnection_self]
        | _ => rfl
  · rw [connections_step_of_ne fs s i m hj]

end Step

/-! ## Up to date -/

/-- What was last published about a document, if anything was, is what the connection that got it
has to be shown now.  A document about which nothing was published is not open. -/
def IsDue (s : Server) (u : Uri) : Option Publication → Prop
  | some p => (s.connections p.connection).phase ≠ .fresh ∧ p.found = s.dueFindings p.connection u
  | none => s.documents.get? u = none

/-- The last publication about each document is due. -/
def UpToDate (s : Server) (ps : List Publication) : Prop := ∀ u, s.IsDue u (latest? u ps)

/-- A step that does not change a document leaves what is due about it as it is. -/
theorem IsDue.step {s : Server} {u : Uri} {last : Option Publication} (h : s.IsDue u last)
    (fs : Files.FileSystem) (i : Nat) (m : Message)
    (hu : (s.step fs i m).server.documents.get? u = s.documents.get? u) :
    (s.step fs i m).server.IsDue u last := by
  cases last with
  | none => exact hu.trans h
  | some p =>
    obtain ⟨hphase, hfound⟩ := h
    refine ⟨phase_step_ne_fresh fs s i hphase m, ?_⟩
    rw [hfound, dueFindings, dueFindings, hu, config_step fs s i hphase m]

/-- **Every step keeps the publications up to date.** -/
theorem UpToDate.arrive {s : Server} {ps : List Publication} (h : s.UpToDate ps) (a : Arrival) :
    (s.arrive a).server.UpToDate (ps ++ publishedBy s a) := by
  obtain ⟨fs, i, m⟩ := a
  intro v
  simp only [publishedBy, Server.arrive]
  rcases step_publishes fs s i m with ⟨hsent, hdocs⟩ | ⟨u, hrun, hsent, hdocs⟩
  · rw [hsent, List.append_nil]
    exact (h v).step fs i m (hdocs v)
  · rw [hsent]
    by_cases hv : u = v
    · -- what has just been published is due, and its connection has started
      rw [latest?_append_of_eq hv]
      have hfresh : (s.connections i).phase ≠ .fresh := by simp [hrun]
      exact ⟨phase_step_ne_fresh fs s i hfresh m, by rw [← hv]⟩
    · have hne : ∀ q ∈ [(⟨i, u, (s.step fs i m).server.dueFindings i u⟩ : Publication)],
          q.uri ≠ v := by
        intro q hq
        rw [List.mem_singleton.mp hq]
        exact hv
      rw [latest?_append_of_ne hne]
      exact (h v).step fs i m (hdocs v (Ne.symm hv))

theorem upToDate_runOver (arrivals : List Arrival) :
    (runOver {} arrivals).UpToDate (publications {} arrivals) := by
  -- From the end of the run: what a step has to keep up is said of the server before it.
  induction arrivals using List.reverseRecOn with
  | nil => exact fun _ => rfl
  | append_singleton arrivals a ih =>
    rw [runOver_concat, publications_concat]
    exact ih.arrive a

/-! ## Runs -/

/-- What one more message adds to the publications of a run: findings about the document that it
announces, if its connection is live, and nothing else. -/
theorem map_publishedBy (arrivals : List Arrival) (a : Arrival) :
    (publishedBy (runOver {} arrivals) a).map (fun p => (p.connection, p.uri)) =
      if IsLive (sentBy a.connection (arrivals.map Arrival.sent)) then
        (a.message.announces? ((runOver {} arrivals).arrive a).server.documents).toList.map
          fun u => (a.connection, u)
      else [] := by
  obtain ⟨fs, i, m⟩ := a
  let s := runOver {} arrivals
  change (publishedOn i (s.step fs i m).sent).map _ = if _ then
    (m.announces? (s.step fs i m).server.documents).toList.map _ else []
  cases m with
  | call c =>
    rw [publishedOn_step_call]
    split <;> rfl
  | notice n =>
    have hlive : (s.connections i).phase = .running ↔
        IsLive (sentBy i (arrivals.map Arrival.sent)) := phase_runOver_eq_running_iff
    have hdocs := documents_step_notice fs s i n
    rw [publishedOn_step_notice]
    by_cases hrun : (s.connections i).phase = .running
    · rw [if_pos hrun] at hdocs
      rw [if_pos hrun, if_pos (hlive.mp hrun), publishedOn_noticeRunning, List.map_map, hdocs]
      rfl
    · rw [if_neg hrun, if_neg (mt hlive.mpr hrun)]
      rfl

/-- **Published findings do not go stale.**  After every run of a server that has started without
documents, whatever becomes of the files meanwhile, and for every document, the last findings that
were published about it are those that its stored text has under the settings of the connection that
got them; about a document that is not open they are none.  And one more message publishes once about
the document it announces, on its own connection, if that is live, and otherwise nothing. -/
theorem publications_not_stale (arrivals : List Arrival) :
    (∀ u d, (runOver {} arrivals).documents.get? u = some d →
      ∃ p, latest? u (publications {} arrivals) = some p ∧
        p.found = Validation.validateDocument
          ((runOver {} arrivals).connections p.connection).config d.name d.text ∧
        p.carried = (Validation.validateDocument
          ((runOver {} arrivals).connections p.connection).config d.name d.text).map
            ofDiagnostic) ∧
    (∀ u p, (runOver {} arrivals).documents.get? u = none →
      latest? u (publications {} arrivals) = some p → p.found = [] ∧ p.carried = []) ∧
    (∀ a, ∃ new, publications {} (arrivals ++ [a]) = publications {} arrivals ++ new ∧
      new.map (fun p => (p.connection, p.uri)) =
        if IsLive (sentBy a.connection (arrivals.map Arrival.sent)) then
          (a.message.announces? (runOver {} (arrivals ++ [a])).documents).toList.map
            fun u => (a.connection, u)
        else []) := by
  have hdue := upToDate_runOver arrivals
  refine ⟨fun u d hd => ?_, fun u p hnone hp => ?_, fun a => ?_⟩
  · have hu := hdue u
    cases hp : latest? u (publications {} arrivals) with
    | none =>
      rw [hp] at hu
      exact absurd (hd.symm.trans hu) nofun
    | some p =>
      rw [hp] at hu
      have hfound : p.found = Validation.validateDocument
          ((runOver {} arrivals).connections p.connection).config d.name d.text := by
        rw [hu.2, dueFindings, hd]
      exact ⟨p, rfl, hfound, congrArg (List.map ofDiagnostic) hfound⟩
  · have hu := hdue u
    rw [hp] at hu
    have hfound : p.found = [] := by rw [hu.2, dueFindings, hnone]
    exact ⟨hfound, congrArg (List.map ofDiagnostic) hfound⟩
  · refine ⟨_, publications_concat {} arrivals a, ?_⟩
    rw [runOver_concat]
    exact map_publishedBy arrivals a

end GraphLint.Server
