import GraphLint.Completion
import GraphLint.ConfigFile
import GraphLint.Server.Documents
import GraphLint.Validation
/-! # Sessions

A server talks to any number of connections.  Each one passes through a life cycle: it is fresh until
it has started, runs until it is stopped, and may exit at any time.  Only while it runs are its calls
answered and its notices heeded.  Whatever changes a document publishes the findings about it on the
connection that sent the change. -/
namespace GraphLint
open Files

namespace Server

/-- Where a connection is in its life cycle. -/
inductive Phase where
  | fresh
  | running
  | stopped
  | exited
  deriving DecidableEq, Repr

/-- One connection. -/
structure Connection where
  phase : Phase := .fresh
  config : Config := {}
  deriving DecidableEq, Repr

end Server

/-- A server: the open documents, and the connections by their numbers. -/
structure Server where
  documents : Server.Registry := {}
  connections : Nat → Server.Connection := fun _ => {}

namespace Server

/-- A server that one connection of has changed. -/
def setConnection (s : Server) (i : Nat) (c : Connection) : Server :=
  { s with connections := fun j => if j = i then c else s.connections j }

/-- Why a call is refused. -/
inductive CallFault where
  | notStarted
  | invalidRequest
  /-- The method is part of the protocol, but is not offered. -/
  | unsupported
  | unknownMethod (method : String)
  | invalidParams (reason : String)
  deriving DecidableEq, Repr

/-- What a connection asks for. -/
inductive Call where
  | start (root : Option Uri)
  | stop
  | complete (uri : Uri) (position : Position)
  /-- A call whose parameters cannot be read, or whose method is not offered. -/
  | refused (fault : CallFault)
  /-- A start whose parameters cannot be read. -/
  | badStart (reason : String)
  /-- A stop with parameters. -/
  | badStop (reason : String)
  /-- A notice that is sent as a call. -/
  | misplaced
  | unknown (method : String)
  /-- A call that nobody has to understand. -/
  | optional
  deriving DecidableEq, Repr

/-- What a connection tells. -/
inductive Notice where
  | started
  | exit
  | opened (uri : Uri) (language text : Text)
  /-- Every change carries the whole text. -/
  | changed (uri : Uri) (texts : List Text)
  | saved (uri : Uri) (text : Option Text)
  | closed (uri : Uri)
  | other
  deriving DecidableEq, Repr

/-- What a connection sends. -/
inductive Message where
  | call (c : Call)
  | notice (n : Notice)
  deriving DecidableEq, Repr

/-- What a call is answered with. -/
inductive Answer where
  | capabilities
  | nothing
  | items (items : List Completion.Item)
  deriving DecidableEq, Repr

/-- How a message is answered. -/
inductive Reply where
  /-- Not at all. -/
  | silence
  | answer (a : Answer)
  | fault (f : CallFault)
  /-- The connection has exited. -/
  | gone
  deriving DecidableEq, Repr

/-- How grave a line of the log is. -/
inductive LogLevel where
  | warning
  | info
  deriving DecidableEq, Repr

/-- What the server sends of its own accord. -/
inductive Sent where
  | log (level : LogLevel) (text : String)
  | publish (uri : Uri) (found : List Diagnostic)
  deriving DecidableEq, Repr

/-- The server after a message, the reply, and what else is sent on the connection. -/
structure Outcome where
  server : Server
  reply : Reply
  sent : List Sent

/-! ## The settings of a workspace -/

/-- The path of the settings file in the root of a workspace. -/
def configPath? (root : Option Uri) : Option Text :=
  (root.bind Uri.filePath?).map fun path => child path Config.fileName

/-- The settings of a workspace, if it has a settings file. -/
def workspaceConfig? (fs : FileSystem) (root : Option Uri) : Option (Except LintError Config) :=
  (configPath? root).bind fun path => if fs.exists? path then some (Config.load fs path) else none

/-- The log line about settings that cannot be used. -/
def configWarning (e : LintError) : Sent :=
  .log .warning ("Failed to load " ++ String.ofList Config.fileName ++ ": " ++ e.message)

/-! ## Calls -/

/-- The items offered at a position of a document; an unknown one has none. -/
def completionItems (s : Server) (uri : Uri) (position : Position) : List Completion.Item :=
  match s.documents.get? uri with
  | some d => Completion.itemsAt d.text position
  | none => []

/-- Starts a connection with the settings of its workspace. -/
def start (fs : FileSystem) (s : Server) (i : Nat) (root : Option Uri) : Outcome :=
  let c := s.connections i
  match workspaceConfig? fs root with
  | none => ⟨s.setConnection i { c with phase := .running }, .answer .capabilities, []⟩
  | some (.ok config) => ⟨s.setConnection i ⟨.running, config⟩, .answer .capabilities, []⟩
  | some (.error e) =>
    ⟨s.setConnection i { c with phase := .running }, .answer .capabilities, [configWarning e]⟩

/-- Stops a connection. -/
def stop (s : Server) (i : Nat) (reply : Reply) : Outcome :=
  ⟨s.setConnection i { s.connections i with phase := .stopped }, reply, []⟩

/-- A server that answers without a change. -/
def unchanged (s : Server) (reply : Reply) : Outcome := ⟨s, reply, []⟩

/-- What a call does on a running connection. -/
def callRunning (s : Server) (i : Nat) : Call → Outcome
  | .start _ => s.unchanged (.fault .invalidRequest)
  | .badStart _ => s.unchanged (.fault .invalidRequest)
  | .stop => s.stop i (.answer .nothing)
  | .badStop reason => s.stop i (.fault (.invalidParams reason))
  | .complete uri position => s.unchanged (.answer (.items (s.completionItems uri position)))
  | .refused fault => s.unchanged (.fault fault)
  | .misplaced => s.unchanged .silence
  | .unknown method => s.unchanged (.fault (.unknownMethod method))
  | .optional => s.unchanged .silence

/-- What a call does on a connection that has not started. -/
def callFresh (fs : FileSystem) (s : Server) (i : Nat) : Call → Outcome
  | .start root => s.start fs i root
  | .badStart reason => s.unchanged (.fault (.invalidParams reason))
  | .unknown method => s.unchanged (.fault (.unknownMethod method))
  | .optional => s.unchanged .silence
  | _ => s.unchanged (.fault .notStarted)

/-- What a call does on a connection that was stopped. -/
def callStopped (s : Server) : Call → Outcome
  | .unknown method => s.unchanged (.fault (.unknownMethod method))
  | .optional => s.unchanged .silence
  | _ => s.unchanged (.fault .invalidRequest)

/-! ## Notices -/

/-- The findings about a document, in the form in which they are published. -/
def publication (s : Server) (i : Nat) (uri : Uri) : List Sent :=
  match s.documents.get? uri with
  | some d => [.publish uri (Validation.validateDocument (s.connections i).config d.name d.text)]
  | none => []

/-- A server with other documents, which publishes the findings about one of them. -/
def publishing (s : Server) (i : Nat) (uri : Uri) (documents : Registry) : Outcome :=
  let s := { s with documents }
  ⟨s, .silence, s.publication i uri⟩

/-- What a notice does on a running connection.  Of several changes the first one counts. -/
def noticeRunning (s : Server) (i : Nat) : Notice → Outcome
  | .started => ⟨s, .silence, [.log .info "Kro LSP Server initialized"]⟩
  | .opened uri language text =>
    s.publishing i uri (s.documents.insert uri ⟨uri.print, text, language⟩)
  | .changed uri (text :: _) => s.publishing i uri (s.documents.insertText uri text)
  | .changed _ [] => s.unchanged .silence
  | .saved uri (some text) => s.publishing i uri (s.documents.insertText uri text)
  | .saved uri none => s.publishing i uri s.documents
  | .closed uri =>
    ⟨{ s with documents := s.documents.erase uri }, .silence, [.publish uri []]⟩
  | .exit => s.unchanged .silence
  | .other => s.unchanged .silence

/-! ## Steps -/

/-- Ends a connection. -/
def exit (s : Server) (i : Nat) : Outcome :=
  ⟨s.setConnection i { s.connections i with phase := .exited }, .silence, []⟩

/-- What a message on a connection does. -/
def step (fs : FileSystem) (s : Server) (i : Nat) (m : Message) : Outcome :=
  match (s.connections i).phase, m with
  | .exited, _ => s.unchanged .gone
  | _, .notice .exit => s.exit i
  | .fresh, .call c => s.callFresh fs i c
  | .running, .call c => s.callRunning i c
  | .stopped, .call c => s.callStopped c
  | .running, .notice n => s.noticeRunning i n
  | _, .notice _ => s.unchanged .silence

/-- The server after messages, each with the number of its connection. -/
def run (fs : FileSystem) (s : Server) (messages : List (Nat × Message)) : Server :=
  messages.foldl (fun s m => (s.step fs m.1 m.2).server) s

end Server
end GraphLint
