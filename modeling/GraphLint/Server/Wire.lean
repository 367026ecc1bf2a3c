import GraphLint.Report
import GraphLint.Server.Method
/-! # Messages as JSON

The forms in which the server writes what it sends: items that are offered, findings, replies and what
it sends of its own accord. -/
namespace GraphLint.Server

/-- A word. -/
def ofWord (n : UInt32) : Json := .ofNat n.toNat

/-- A place in a document. -/
def ofPosition (p : Position) : Json :=
  .object [("line", ofWord p.line), ("character", ofWord p.character)]

/-- A part of a document. -/
def ofRange (r : Range) : Json :=
  .object [("start", ofPosition r.start), ("end", ofPosition r.stop)]

/-- The number of a kind of item. -/
def itemKindNumber : Completion.ItemKind → Nat
  | .function => 3
  | .object => 6
  | .property => 10
  | .keyword => 14

/-- An item that is offered.  Its text is inserted as it stands. -/
def ofItem (i : Completion.Item) : Json :=
  .object
    [("label", .string i.label), ("kind", .ofNat (itemKindNumber i.kind)),
      ("detail", .string i.detail),
      ("documentation",
        .object [("kind", .string "markdown"), ("value", .string i.documentation)]),
      ("insertText", .string i.insertText), ("insertTextFormat", .ofNat 1)]

/-- The number of a severity. -/
def severityNumber : Severity → Nat
  | .error => 1
  | .warning => 2
  | .info => 3
  | .hint => 4

/-- The message of a finding, with what to do about it. -/
def messageText (d : Diagnostic) : String :=
  match d.suggestion with
  | some s => d.message ++ "\n\nSuggestion: " ++ s
  | none => d.message

/-- A finding. -/
def ofDiagnostic (d : Diagnostic) : Json :=
  .object
    [("range", ofRange d.range), ("severity", .ofNat (severityNumber d.severity)),
      ("code", .string d.rule), ("source", .string d.stage.tag), ("message", .string (messageText d))]

/-- What the server says about itself when it starts: documents are sent as a whole, and a dot, a
colon and a space ask for items. -/
def capabilities : Json :=
  .object
    [("capabilities", .object
      [("textDocumentSync", .ofNat 1),
        ("completionProvider", .object
          [("triggerCharacters", .array [.string ".", .string ":", .string " "])])]),
      ("serverInfo", .object
        [("name", .string "kro-lsp"), ("version", .string Report.version)])]

/-- An answer. -/
def ofAnswer : Answer → Json
  | .capabilities => capabilities
  | .nothing => .null
  | .items items => .array (items.map ofItem)

/-- The number of a fault. -/
def CallFault.code : CallFault → Int
  | notStarted => -32002
  | invalidRequest => -32600
  | unsupported => -32601
  | unknownMethod _ => -32601
  | invalidParams _ => -32602

/-- The wording of a fault. -/
def CallFault.message : CallFault → String
  | notStarted => "Server not initialized"
  | invalidRequest => "Invalid request"
  | unsupported => "Method not found"
  | unknownMethod _ => "Method not found"
  | invalidParams reason => reason

/-- What a fault is about, if its message does not say it. -/
def CallFault.data? : CallFault → Option String
  | unknownMethod method => some method
  | _ => none

/-- A fault. -/
def ofFault (f : CallFault) : Json :=
  .object <|
    [("code", .whole f.code), ("message", .string f.message)] ++
      f.data?.toList.map fun d => ("data", .string d)

/-- The response to the call with an identifier, if there is one. -/
def response? (id : Json) : Reply → Option Json
  | .silence => none
  | .gone => none
  | .answer a => some (.object [("result", ofAnswer a), ("id", id)])
  | .fault f => some (.object [("error", ofFault f), ("id", id)])

/-- The number of a level of the log. -/
def LogLevel.number : LogLevel → Nat
  | warning => 2
  | info => 3

/-- What the server sends of its own accord, as a method with parameters. -/
def ofSent : Sent → Json
  | .log level text =>
    .object
      [("method", .string "window/logMessage"),
        ("params", .object [("type", .ofNat level.number), ("message", .string text)])]
  | .publish uri found =>
    .object
      [("method", .string "textDocument/publishDiagnostics"),
        ("params", .object
          [("uri", .ofText uri.print), ("diagnostics", .array (found.map ofDiagnostic))])]

end GraphLint.Server
