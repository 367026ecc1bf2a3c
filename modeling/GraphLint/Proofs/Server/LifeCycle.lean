import GraphLint.Server.Session
import Mathlib.Data.List.Basic
/-! # The life cycle of a connection

The phase of a connection depends on what that connection has sent and on nothing else.
`Phase.after` is one step of it, and `phase_runOver` follows it along a run, in which the files may
change from one message to the next.  `IsLive` says without steps when a connection is running: it
has started, it had not exited before, and it has neither been stopped nor exited since
(`foldl_after_eq_running_iff`). -/
namespace GraphLint.Server

/-! ## Phases -/

namespace Message

/-- Whether a message asks for a start and can be read. -/
def starts : Message → Bool
  | .call (.start _) => true
  | _ => false

/-- Whether a message asks for a stop, with the right parameters or not. -/
def stops : Message → Bool
  | .call .stop => true
  | .call (.badStop _) => true
  | _ => false

/-- Whether a message tells that the connection exits. -/
def exits : Message → Bool
  | .notice .exit => true
  | _ => false

end Message

/-- The phase of a connection after a message of its own. -/
def Phase.after (p : Phase) (m : Message) : Phase :=
  match p with
  | .fresh => if m.exits then .exited else if m.starts then .running else .fresh
  | .running => if m.exits then .exited else if m.stops then .stopped else .running
  | .stopped => if m.exits then .exited else .stopped
  | .exited => .exited

section Step
variable (fs : Files.FileSystem) (s : Server) (i : Nat)

@[simp] theorem setConnection_self (c : Connection) : (s.setConnection i c).connections i = c :=
  if_pos rfl

theorem setConnection_of_ne {j : Nat} (c : Connection) (h : j ≠ i) :
    (s.setConnection i c).connections j = s.connections j :=
  if_neg h

theorem phase_start (root : Option Uri) :
    ((s.start fs i root).server.connections i).phase = .running := by
  unfold start
  split <;> simp

theorem connections_start_of_ne {j : Nat} (root : Option Uri) (h : j ≠ i) :
    (s.start fs i root).server.connections j = s.connections j := by
  unfold start
  split <;> exact setConnection_of_ne s i _ h

theorem phase_callFresh (c : Call) (h : (s.connections i).phase = .fresh) :
    ((s.callFresh fs i c).server.connections i).phase = Phase.fresh.after (.call c) := by
  cases c with
  | start root => exact phase_start fs s i root
  | _ => exact h

theorem phase_callRunning (c : Call) (h : (s.connections i).phase = .running) :
    ((s.callRunning i c).server.connections i).phase = Phase.running.after (.call c) := by
  cases c with
  | stop => simp [callRunning, stop, Phase.after, Message.exits, Message.stops]
  | badStop reason => simp [callRunning, stop, Phase.after, Message.exits, Message.stops]
  | _ => exact h

theorem connections_callStopped (c : Call) :
    (s.callStopped c).server.connections = s.connections := by
  cases c <;> rfl

theorem connections_noticeRunning (n : Notice) :
    (s.noticeRunning i n).server.connections = s.connections := by
  unfold noticeRunning
  split <;> rfl

/-- **A message moves the phase of its connection on.** -/
theorem phase_step (m : Message) :
    ((s.step fs i m).server.connections i).phase = (s.connections i).phase.after m := by
  unfold step
  -- the phase decides who handles the message, and `exit` is handled before all others
  cases hp : (s.connections i).phase with
  | exited => exact hp
  | fresh =>
    cases m with
    | call c => exact phase_callFresh fs s i c hp
    | notice n =>
      cases n with
      | exit => simp [exit, Phase.after, Message.exits]
      | _ => exact hp
  | running =>
    cases m with
    | call c => exact phase_callRunning s i c hp
    | notice n =>
      cases n with
      | exit => simp [exit, Phase.after, Message.exits]
      | _ =>
        simp only [connections_noticeRunning]
        exact hp
  | stopped =>
    cases m with
    | call c =>
      simp only [connections_callStopped]
      exact hp
    | notice n =>
      cases n with
      | exit => simp [exit, Phase.after, Message.exits]
      | _ => exact hp

/-- A message changes no other connection than its own. -/
theorem connections_step_of_ne {j : Nat} (m : Message) (h : j ≠ i) :
    (s.step fs i m).server.connections j = s.connections j := by
  unfold step
  split
  · rfl
  · exact setConnection_of_ne s i _ h
  · unfold callFresh
    split
    · exact connections_start_of_ne fs s i _ h
    all_goals rfl
  · unfold callRunning
    split
    all_goals first | rfl | exact setConnection_of_ne s i _ h
  · rw [connections_callStopped]
  · rw [connections_noticeRunning]
  · rfl

end Step

/-! ## Runs -/

/-- What one connection sends in a run. -/
def sentBy (i : Nat) (messages : List (Nat × Message)) : List Message :=
  (messages.filter (·.1 = i)).map (·.2)

/-- A message as it arrives: on which connection, and with the files as they are by then. -/
structure Arrival where
  files : Files.FileSystem
  connection : Nat
  message : Message

/-- What was sent, whatever the files are when it arrives. -/
def Arrival.sent (a : Arrival) : Nat × Message := (a.connection, a.message)

/-- What a message does when it arrives. -/
def arrive (s : Server) (a : Arrival) : Outcome := s.step a.files a.connection a.message

/-- The server after messages have arrived, each with files of its own. -/
def runOver (s : Server) (arrivals : List Arrival) : Server :=
  arrivals.foldl (fun s a => (s.arrive a).server) s

theorem runOver_concat (s : Server) (arrivals : List Arrival) (a : Arrival) :
    runOver s (arrivals ++ [a]) = ((runOver s arrivals).arrive a).server := by
  rw [runOver, List.foldl_append]
  rfl

/-- Where the files never change, messages arrive as in a run. -/
theorem run_eq_runOver (fs : Files.FileSystem) (s : Server) (messages : List (Nat × Message)) :
    run fs s messages = runOver s (messages.map fun m => ⟨fs, m.1, m.2⟩) := by
  rw [run, runOver, List.foldl_map]
  rfl

/-- **The phase of a connection comes from its own messages**, whatever the others send and whatever
the files are. -/
theorem phase_runOver (s : Server) (i : Nat) (arrivals : List Arrival) :
    ((runOver s arrivals).connections i).phase =
      (sentBy i (arrivals.map Arrival.sent)).foldl Phase.after (s.connections i).phase := by
  induction arrivals generalizing s with
  | nil => rfl
  | cons a rest ih =>
    have hrun : runOver s (a :: rest) = runOver (s.arrive a).server rest := rfl
    rw [hrun, ih, arrive]
    by_cases hi : a.connection = i
    · subst hi
      simp [sentBy, Arrival.sent, phase_step]
    · rw [connections_step_of_ne a.files s a.connection a.message (Ne.symm hi)]
      simp [sentBy, Arrival.sent, hi]

theorem phase_run (fs : Files.FileSystem) (s : Server) (i : Nat) (messages : List (Nat × Message)) :
    ((run fs s messages).connections i).phase =
      (sentBy i messages).foldl Phase.after (s.connections i).phase := by
  rw [run_eq_runOver, phase_runOver, List.map_map]
  exact congrArg (fun ms => (sentBy i ms).foldl Phase.after _) (List.map_id messages)

/-! ## Live connections -/

/-- A connection that has sent these messages has started, and has been neither stopped nor exited
since. -/
def IsLive (own : List Message) : Prop :=
  ∃ before m after, own = before ++ m :: after ∧ m.starts = true ∧
    (∀ b ∈ before, b.starts = false ∧ b.exits = false) ∧
    ∀ a ∈ after, a.stops = false ∧ a.exits = false

theorem isLive_cons {m : Message} {rest : List Message} : IsLive (m :: rest) ↔
    (m.starts = true ∧ ∀ a ∈ rest, a.stops = false ∧ a.exits = false) ∨
      (m.starts = false ∧ m.exits = false) ∧ IsLive rest := by
  constructor
  · rintro ⟨before, n, after, heq, hn, hbefore, hafter⟩
    cases before with
    | nil =>
      obtain ⟨rfl, rfl⟩ := List.cons.inj heq
      exact Or.inl ⟨hn, hafter⟩
    | cons b before =>
      obtain ⟨rfl, rfl⟩ := List.cons.inj heq
      obtain ⟨hb, hbefore⟩ := List.forall_mem_cons.mp hbefore
      exact Or.inr ⟨hb, before, n, after, rfl, hn, hbefore, hafter⟩
  · rintro (⟨hm, hrest⟩ | ⟨hm, before, n, after, rfl, hn, hbefore, hafter⟩)
    · exact ⟨[], m, rest, rfl, hm, fun _ hb => absurd hb List.not_mem_nil, hrest⟩
    · exact ⟨m :: before, n, after, rfl, hn, List.forall_mem_cons.mpr ⟨hm, hbefore⟩, hafter⟩

theorem foldl_after_exited (own : List Message) : own.foldl Phase.after .exited = .exited := by
  induction own with
  | nil => rfl
  | cons m rest ih => exact ih

theorem foldl_after_stopped_ne (own : List Message) :
    own.foldl Phase.after .stopped ≠ .running := by
  induction own with
  | nil => exact nofun
  | cons m rest ih =>
    rw [List.foldl_cons, Phase.after]
    split
    · rw [foldl_after_exited]
      exact nofun
    · exact ih

theorem foldl_after_running_iff (own : List Message) :
    own.foldl Phase.after .running = .running ↔ ∀ a ∈ own, a.stops = false ∧ a.exits = false := by
  induction own with
  | nil => simp
  | cons m rest ih =>
    rw [List.foldl_cons, List.forall_mem_cons, Phase.after]
    cases hexit : m.exits with
    | true => simp [foldl_after_exited]
    | false =>
      cases hstop : m.stops with
      | true => simp [foldl_after_stopped_ne]
      | false => simpa using ih

/-- **The connections that are live are those in the running phase.** -/
theorem foldl_after_eq_running_iff (own : List Message) :
    own.foldl Phase.after .fresh = .running ↔ IsLive own := by
  induction own with
  | nil => simp [IsLive]
  | cons m rest ih =>
    rw [List.foldl_cons, isLive_cons, Phase.after]
    cases hexit : m.exits with
    | true =>
      -- an exit is no start, so neither side of `isLive_cons` holds
      have hstart : m.starts = false := by
        unfold Message.exits at hexit
        split at hexit
        · rfl
        · cases hexit
      simp [foldl_after_exited, hstart]
    | false =>
      cases hstart : m.starts with
      | true => simpa using foldl_after_running_iff rest
      | false => simpa using ih

/-- A connection is running after a run exactly if it is live then. -/
theorem phase_runOver_eq_running_iff {arrivals : List Arrival} {i : Nat} :
    ((runOver {} arrivals).connections i).phase = .running ↔
      IsLive (sentBy i (arrivals.map Arrival.sent)) := by
  rw [phase_runOver]
  exact foldl_after_eq_running_iff _

/-- A live connection stays so until it is stopped or exits. -/
theorem IsLive.append {own later : List Message} (h : IsLive own)
    (hlater : ∀ m ∈ later, m.stops = false ∧ m.exits = false) : IsLive (own ++ later) := by
  obtain ⟨before, m, after, rfl, hm, hbefore, hafter⟩ := h
  refine ⟨before, m, after ++ later, by simp, hm, hbefore, fun a ha => ?_⟩
  exact (List.mem_append.mp ha).elim (hafter a) (hlater a)

instance : DecidablePred IsLive := fun own =>
  decidable_of_iff (own.foldl Phase.after .fresh = .running) (foldl_after_eq_running_iff own)

end GraphLint.Server
