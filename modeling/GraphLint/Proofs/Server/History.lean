import GraphLint.Proofs.Server.LifeCycle
import GraphLint.Proofs.Server.Registry
import Mathlib.Data.List.Induction
/-! # The documents after a run

Of what connections send, the notices that are sent while their connection is live are `heeded`, in
the order of the run.  A notice is about one document, if any, and what it makes of that document
depends on the document only (`Notice.apply`).  So what a registry holds under a URI is what the
heeded notices about that URI leave, one after the other, of nothing (`documentAfter`), and none of
the others matter. -/
namespace GraphLint.Server

/-! ## What notices leave of a document -/

/-- The URI of the document that a notice is about. -/
def Notice.subject? : Notice → Option Uri
  | .opened uri _ _ => some uri
  | .changed uri _ => some uri
  | .saved uri _ => some uri
  | .closed uri => some uri
  | _ => none

/-- The URI of the document that a message may change; a call changes none. -/
def Message.subject? : Message → Option Uri
  | .call _ => none
  | .notice n => n.subject?

/-- Another text for a document; a new document has no language. -/
def retext (uri : Uri) (text : Text) (stored : Option Document) : Document :=
  ⟨uri.print, text, (stored.map (·.language)).getD []⟩

/-- What a notice leaves of the document that it is about. -/
def Notice.apply (stored : Option Document) : Notice → Option Document
  | .opened uri language text => some ⟨uri.print, text, language⟩
  | .changed uri [text] => some (retext uri text stored)
  | .saved uri (some text) => some (retext uri text stored)
  | .closed _ => none
  | _ => stored

/-- What notices leave of the document under a URI that has none before. -/
def documentAfter (uri : Uri) (notices : List Notice) : Option Document :=
  (notices.filter (·.subject? = some uri)).foldl Notice.apply none

/-- A change of a document carries one text at most. -/
def Message.IsSingle (m : Message) : Prop :=
  ∀ uri texts, m = .notice (.changed uri texts) → texts.length ≤ 1

/-! ## Steps -/

section Step
variable (fs : Files.FileSystem) (s : Server) (i : Nat)

theorem documents_step_call (c : Call) :
    (s.step fs i (.call c)).server.documents = s.documents := by
  unfold step
  cases (s.connections i).phase with
  | exited => rfl
  | fresh =>
    cases c with
    | start root =>
      simp only [callFresh, start]
      split <;> rfl
    | _ => rfl
  | running => cases c <;> rfl
  | stopped => cases c <;> rfl

theorem documents_step_notice (n : Notice) :
    (s.step fs i (.notice n)).server.documents =
      if (s.connections i).phase = .running then (s.noticeRunning i n).server.documents
      else s.documents := by
  unfold step
  cases (s.connections i).phase <;> cases n <;> rfl

/-- A notice leaves the documents that it is not about as they are. -/
theorem get?_noticeRunning_of_ne {n : Notice} {u : Uri} (h : n.subject? ≠ some u) :
    (s.noticeRunning i n).server.documents.get? u = s.documents.get? u := by
  have hne : ∀ v : Uri, n.subject? = some v → u ≠ v := by
    rintro v hv rfl
    exact h hv
  cases n with
  | opened v _ _ => exact Registry.get?_insert_of_ne _ _ (hne v rfl)
  | changed v texts =>
    cases texts with
    | nil => rfl
    | cons _ _ => exact Registry.get?_insert_of_ne _ _ (hne v rfl)
  | saved v text =>
    cases text with
    | none => rfl
    | some _ => exact Registry.get?_insert_of_ne _ _ (hne v rfl)
  | closed v => exact Registry.get?_erase_of_ne _ (hne v rfl)
  | _ => rfl

/-- **What a notice makes of the document that it is about** depends on that document only. -/
theorem get?_noticeRunning_self {n : Notice} {u : Uri} (hn : (Message.notice n).IsSingle)
    (h : n.subject? = some u) :
    (s.noticeRunning i n).server.documents.get? u = n.apply (s.documents.get? u) := by
  cases n with
  | opened v language text =>
    obtain rfl := Option.some.inj h
    exact Registry.get?_insert_self ..
  | changed v texts =>
    obtain rfl := Option.some.inj h
    match texts with
    | [] => rfl
    | [text] => exact Registry.get?_insert_self ..
    | _ :: _ :: _ => exact absurd (hn v _ rfl) (by simp)
  | saved v text =>
    obtain rfl := Option.some.inj h
    cases text with
    | none => rfl
    | some text => exact Registry.get?_insert_self ..
  | closed v =>
    obtain rfl := Option.some.inj h
    exact Registry.get?_erase_self ..
  | _ => cases h

/-- A message that is not about a document leaves it as it is, whatever it changes elsewhere. -/
theorem get?_step_of_ne {m : Message} {u : Uri} (h : m.subject? ≠ some u) :
    (s.step fs i m).server.documents.get? u = s.documents.get? u := by
  cases m with
  | call c => rw [documents_step_call]
  | notice n =>
    rw [documents_step_notice]
    split
    · exact get?_noticeRunning_of_ne s i h
    · rfl

theorem valid_step (m : Message) (h : s.documents.Valid) :
    (s.step fs i m).server.documents.Valid := by
  cases m with
  | call c =>
    rw [documents_step_call]
    exact h
  | notice n =>
    rw [documents_step_notice]
    split
    · unfold noticeRunning
      split
      all_goals first | exact h | exact h.insert rfl | exact h.erase _
    · exact h

end Step

/-! ## Runs -/

/-- The notices of a run that are sent while their connection is live, in the order of the run, when
`earlier` was sent before. -/
def heededAfter : (earlier messages : List (Nat × Message)) → List Notice
  | _, [] => []
  | earlier, (i, m) :: rest =>
    let later := heededAfter (earlier ++ [(i, m)]) rest
    match m with
    | .call _ => later
    | .notice n => if IsLive (sentBy i earlier) then n :: later else later

/-- The notices of a run that are sent while their connection is live. -/
def heeded (messages : List (Nat × Message)) : List Notice := heededAfter [] messages

theorem heededAfter_append (earlier ms ns : List (Nat × Message)) :
    heededAfter earlier (ms ++ ns) = heededAfter earlier ms ++ heededAfter (earlier ++ ms) ns := by
  induction ms generalizing earlier with
  | nil => rw [List.append_nil]; rfl
  | cons m rest ih =>
    have hrest := ih (earlier ++ [m])
    rw [List.append_assoc, List.singleton_append] at hrest
    obtain ⟨i, m⟩ := m
    cases m with
    | call c => exact hrest
    | notice n =>
      rw [List.cons_append, heededAfter, heededAfter, hrest]
      split <;> rfl

theorem heeded_concat_call (ms : List (Nat × Message)) (i : Nat) (c : Call) :
    heeded (ms ++ [(i, .call c)]) = heeded ms := by
  rw [heeded, heededAfter_append]
  exact List.append_nil _

theorem heeded_concat_notice (ms : List (Nat × Message)) (i : Nat) (n : Notice) :
    heeded (ms ++ [(i, .notice n)]) =
      if IsLive (sentBy i ms) then heeded ms ++ [n] else heeded ms := by
  rw [heeded, heededAfter_append, List.nil_append, heededAfter]
  split
  · rfl
  · exact List.append_nil _

theorem documentAfter_concat_of_eq {n : Notice} {u : Uri} (h : n.subject? = some u)
    (ns : List Notice) : documentAfter u (ns ++ [n]) = n.apply (documentAfter u ns) := by
  rw [documentAfter, List.filter_append, List.foldl_append,
    List.filter_cons_of_pos (by simpa using h)]
  rfl

theorem documentAfter_concat_of_ne {n : Notice} {u : Uri} (h : n.subject? ≠ some u)
    (ns : List Notice) : documentAfter u (ns ++ [n]) = documentAfter u ns := by
  rw [documentAfter, List.filter_append, List.filter_cons_of_neg (by simpa using h),
    List.filter_nil, List.append_nil]
  rfl

section Run
variable (fs : Files.FileSystem)

theorem run_concat (s : Server) (ms : List (Nat × Message)) (m : Nat × Message) :
    run fs s (ms ++ [m]) = ((run fs s ms).step fs m.1 m.2).server := by
  rw [run, List.foldl_append]
  rfl

theorem valid_run {s : Server} (messages : List (Nat × Message)) (h : s.documents.Valid) :
    (run fs s messages).documents.Valid := by
  induction messages generalizing s with
  | nil => exact h
  | cons m rest ih => exact ih (valid_step fs s m.1 m.2 h)

/-- A connection that has sent what it has in a run is running exactly if it is live. -/
theorem phase_run_eq_running_iff (ms : List (Nat × Message)) (i : Nat) :
    ((run fs {} ms).connections i).phase = .running ↔ IsLive (sentBy i ms) := by
  rw [phase_run]
  exact foldl_after_eq_running_iff (sentBy i ms)

/-- **The document under a URI after a run** is what the heeded notices about it leave. -/
theorem get?_run {messages : List (Nat × Message)} (hsingle : ∀ m ∈ messages, m.2.IsSingle)
    (u : Uri) : (run fs {} messages).documents.get? u = documentAfter u (heeded messages) := by
  induction messages using List.reverseRecOn with
  | nil => rfl
  | append_singleton ms m ih =>
    obtain ⟨hms, hm⟩ := List.forall_mem_append.mp hsingle
    have ih := ih hms
    obtain ⟨i, m⟩ := m
    -- what the last message does depends on whether its connection is live after `ms`
    rw [run_concat]
    cases m with
    | call c => rw [documents_step_call, heeded_concat_call, ih]
    | notice n =>
      rw [documents_step_notice, heeded_concat_notice]
      by_cases hlive : IsLive (sentBy i ms)
      · rw [if_pos ((phase_run_eq_running_iff fs ms i).mpr hlive), if_pos hlive]
        by_cases hu : n.subject? = some u
        · have hn := hm _ (List.mem_singleton_self _)
          rw [get?_noticeRunning_self _ i hn hu, documentAfter_concat_of_eq hu, ih]
        · rw [get?_noticeRunning_of_ne _ i hu, documentAfter_concat_of_ne hu, ih]
      · rw [if_neg (mt (phase_run_eq_running_iff fs ms i).mp hlive), if_neg hlive, ih]

end Run

/-! ## The registry after a run -/

/-- A registry holds what notices leave. -/
structure Registry.Holds (r : Registry) (notices : List Notice) : Prop where
  /-- Under each URI there is what the notices about it leave. -/
  get?_eq : ∀ u, r.get? u = documentAfter u notices
  /-- A document has the name of its URI. -/
  name_eq : ∀ u d, r.get? u = some d → d.name = u.print
  /-- As many documents are there as there are URIs under which the notices leave one. -/
  size_eq : ∃ us : List Uri, us.Nodup ∧ (∀ u, u ∈ us ↔ (documentAfter u notices).isSome = true) ∧
    r.size = us.length

/-- **The registry after a run** of a server that has started with none holds what the heeded
notices leave; and no message, on whatever connection, changes another document than its own. -/
theorem registry_holds_heeded (fs : Files.FileSystem) (messages : List (Nat × Message))
    (hsingle : ∀ m ∈ messages, m.2.IsSingle) :
    (run fs {} messages).documents.Holds (heeded messages) ∧
      ∀ (s : Server) (i : Nat) (m : Message) (u : Uri), m.subject? ≠ some u →
        (s.step fs i m).server.documents.get? u = s.documents.get? u := by
  have hget := get?_run fs hsingle
  have hvalid : (run fs {} messages).documents.Valid := valid_run fs messages Registry.valid_empty
  refine ⟨⟨hget, fun u d hd => hvalid.name_eq_print hd, ?_⟩,
    fun s i m u h => get?_step_of_ne fs s i h⟩
  -- the keys of the registry are the URIs under which something is left
  refine ⟨(run fs {} messages).documents.keys, hvalid.keys_nodup, fun u => ?_, ?_⟩
  · rw [Registry.mem_keys_iff, hget]
  · exact (List.length_map _).symm

/-- A URI. -/
def sampleUri : Uri := ⟨['f'], none, .flat ['a'], none, none⟩

/-- A run in which one connection opens a document, another one changes it, and a third one, which
has not started, tries to close it. -/
def sampleRun : List (Nat × Message) :=
  [(0, .call (.start none)), (0, .notice (.opened sampleUri ['k'] ['x'])), (1, .call (.start none)),
    (1, .notice (.changed sampleUri [['y']])), (2, .notice (.closed sampleUri))]

/-- The last text that was heeded is there, in the language that the document was opened with. -/
theorem registry_holds_heeded_sampleRun :
    (∀ m ∈ sampleRun, m.2.IsSingle) ∧
      (run ⟨.directory [], []⟩ {} sampleRun).documents.get? sampleUri =
        some ⟨sampleUri.print, ['y'], ['k']⟩ := by
  have hsingle : ∀ m ∈ sampleRun, m.2.IsSingle := by
    simp [sampleRun, Message.IsSingle]
  refine ⟨hsingle, ?_⟩
  rw [(registry_holds_heeded ⟨.directory [], []⟩ sampleRun hsingle).1.get?_eq]
  decide

end GraphLint.Server
