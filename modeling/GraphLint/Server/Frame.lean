import GraphLint.Json.Read
import GraphLint.Server.Wire
/-! # Frames

On a stream every message is a header, which says how many octets follow, an empty line, and a JSON
object.  A call has an identifier, which its response repeats. -/
namespace GraphLint.Server

/-- A message as a frame. -/
def frame (j : Json) : List UInt8 :=
  let content := Text.encode (Json.print j)
  Text.encode ("Content-Length: ".toList ++ Nat.toDigits 10 content.length ++ "\r\n\r\n".toList) ++
    content

/-- The number of octets that a line of a header announces, if it does. -/
def announced? (line : Text) : Option Nat :=
  let name := line.takeWhile (· != ':')
  if name.map Char.toLower = "content-length".toList then
    Text.numberOf? 10 (Text.trim (line.drop (name.length + 1)))
  else none

/-- What a message of the other side is. -/
structure Incoming where
  message : Message
  /-- The identifier of a call. -/
  id : Option Json

/-- The message that a JSON object holds; a response holds none. -/
def incoming? (j : Json) : Option Incoming := do
  let method ← (j.field? "method").bind Json.string?
  let id := j.field? "id"
  return ⟨messageOf method (j.field? "params") id.isSome, id⟩

/-- The response to what is no message at all. -/
def parseFault : Json :=
  .object
    [("jsonrpc", .string "2.0"),
      ("error", .object [("code", .whole (-32700)), ("message", .string "Parse error")]),
      ("id", .null)]

/-- A message of the server as it is sent. -/
def versioned (j : Json) : Json :=
  match j with
  | .object fields => .object (("jsonrpc", .string "2.0") :: fields)
  | j => j

/-- The server after the content of a frame on the connection `i`, and the messages it sends. -/
def receive (fs : Files.FileSystem) (s : Server) (i : Nat) (content : Text) : Server × List Json :=
  match Json.read? content with
  | none => (s, [parseFault])
  | some j =>
    match incoming? j with
    | none => (s, [])
    | some m =>
      let outcome := s.step fs i m.message
      let response := (m.id.bind (response? · outcome.reply)).toList
      (outcome.server, (outcome.sent.map ofSent ++ response).map versioned)

end GraphLint.Server
