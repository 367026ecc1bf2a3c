import GraphLint.Server.Session
import GraphLint.Server.Shape
/-! # Methods

The methods of the Language Server Protocol, the parameters they take, and the messages that they
stand for.  A method of the protocol that the server does not offer still has its parameters
examined. -/
namespace GraphLint.Server

namespace Shape

/-- A place in a document. -/
def position : Shape := .record "Position" [("line", .word), ("character", .word)]

/-- A part of a document. -/
def range : Shape := .record "Range" [("start", position), ("end", position)]

/-- The name of a document. -/
def identifier : Shape := .record "TextDocumentIdentifier" [("uri", .uri)]

/-- The field that names a document. -/
def document : String × Shape := ("textDocument", identifier)

/-- The fields that name a place in a document. -/
def place : List (String × Shape) := [document, ("position", position)]

/-- The parameters of `initialize`. -/
def starting : Shape :=
  .record "InitializeParams"
    [("processId", .optional .word), ("rootPath", .optional .text), ("rootUri", .optional .uri),
      ("capabilities", .record "ClientCapabilities" []),
      ("trace", .optional (.choice ["off", "messages", "verbose"])),
      ("workspaceFolders", .optional (.list (.record "WorkspaceFolder" [("uri", .uri), ("name", .text)]))),
      ("clientInfo", .optional (.record "ClientInfo" [("name", .text), ("version", .optional .text)])),
      ("locale", .optional .text)]

/-- The parameters of `textDocument/completion`. -/
def completing : Shape := .record "CompletionParams" place

/-- The parameters of `textDocument/didOpen`. -/
def opening : Shape :=
  .record "DidOpenTextDocumentParams"
    [("textDocument", .record "TextDocumentItem"
      [("uri", .uri), ("languageId", .text), ("version", .anything), ("text", .text)])]

/-- A change of a document. -/
def change : Shape :=
  .record "TextDocumentContentChangeEvent" [("range", .optional range), ("text", .text)]

/-- The parameters of `textDocument/didChange`. -/
def changing : Shape :=
  .record "DidChangeTextDocumentParams"
    [("textDocument", .record "VersionedTextDocumentIdentifier" [("uri", .uri), ("version", .anything)]),
      ("contentChanges", .list change)]

/-- The parameters of `textDocument/didSave`. -/
def saving : Shape :=
  .record "DidSaveTextDocumentParams" [document, ("text", .optional .text)]

/-- The parameters of `textDocument/didClose`. -/
def closing : Shape := .record "DidCloseTextDocumentParams" [document]

/-- How a document is to be laid out. -/
def layout : Shape := .record "FormattingOptions" [("tabSize", .word), ("insertSpaces", .flag)]

end Shape

open Shape in
/-- The methods that the server does not offer, with the shapes of their parameters. -/
def unsupported : List (String × Shape) :=
  [("textDocument/willSaveWaitUntil",
      .record "WillSaveTextDocumentParams" [document, ("reason", .anything)]),
    ("textDocument/declaration", .record "GotoDefinitionParams" place),
    ("textDocument/definition", .record "GotoDefinitionParams" place),
    ("textDocument/typeDefinition", .record "GotoDefinitionParams" place),
    ("textDocument/implementation", .record "GotoDefinitionParams" place),
    ("textDocument/references",
      .record "ReferenceParams"
        (("context", .record "ReferenceContext" [("includeDeclaration", .flag)]) :: place)),
    ("textDocument/prepareCallHierarchy", .record "CallHierarchyPrepareParams" place),
    ("callHierarchy/incomingCalls", .record "CallHierarchyIncomingCallsParams" [("item", .anything)]),
    ("callHierarchy/outgoingCalls", .record "CallHierarchyOutgoingCallsParams" [("item", .anything)]),
    ("textDocument/prepareTypeHierarchy", .record "TypeHierarchyPrepareParams" place),
    ("typeHierarchy/supertypes", .record "TypeHierarchySupertypesParams" [("item", .anything)]),
    ("typeHierarchy/subtypes", .record "TypeHierarchySubtypesParams" [("item", .anything)]),
    ("textDocument/documentHighlight", .record "DocumentHighlightParams" place),
    ("textDocument/documentLink", .record "DocumentLinkParams" [document]),
    ("documentLink/resolve", .record "DocumentLink" [("range", range)]),
    ("textDocument/hover", .record "HoverParams" place),
    ("textDocument/codeLens", .record "CodeLensParams" [document]),
    ("codeLens/resolve", .record "CodeLens" [("range", range)]),
    ("textDocument/foldingRange", .record "FoldingRangeParams" [document]),
    ("textDocument/selectionRange",
      .record "SelectionRangeParams" [document, ("positions", .list position)]),
    ("textDocument/documentSymbol", .record "DocumentSymbolParams" [document]),
    ("textDocument/semanticTokens/full", .record "SemanticTokensParams" [document]),
    ("textDocument/semanticTokens/full/delta",
      .record "SemanticTokensDeltaParams" [document, ("previousResultId", .text)]),
    ("textDocument/semanticTokens/range",
      .record "SemanticTokensRangeParams" [document, ("range", range)]),
    ("textDocument/inlineValue",
      .record "InlineValueParams" [document, ("range", range), ("context", .anything)]),
    ("textDocument/inlayHint", .record "InlayHintParams" [document, ("range", range)]),
    ("inlayHint/resolve",
      .record "InlayHint" [("position", position), ("label", .anything)]),
    ("textDocument/moniker", .record "MonikerParams" place),
    ("completionItem/resolve", .record "CompletionItem" [("label", .text)]),
    ("textDocument/diagnostic", .record "DocumentDiagnosticParams" [document]),
    ("workspace/diagnostic",
      .record "WorkspaceDiagnosticParams" [("previousResultIds", .list .anything)]),
    ("textDocument/signatureHelp", .record "SignatureHelpParams" place),
    ("textDocument/codeAction",
      .record "CodeActionParams"
        [document, ("range", range),
          ("context", .record "CodeActionContext" [("diagnostics", .list .anything)])]),
    ("codeAction/resolve", .record "CodeAction" [("title", .text)]),
    ("textDocument/documentColor", .record "DocumentColorParams" [document]),
    ("textDocument/colorPresentation",
      .record "ColorPresentationParams" [document, ("color", .anything), ("range", range)]),
    ("textDocument/formatting", .record "DocumentFormattingParams" [document, ("options", layout)]),
    ("textDocument/rangeFormatting",
      .record "DocumentRangeFormattingParams" [document, ("range", range), ("options", layout)]),
    ("textDocument/onTypeFormatting",
      .record "DocumentOnTypeFormattingParams" (("ch", .text) :: ("options", layout) :: place)),
    ("textDocument/rename", .record "RenameParams" (("newName", .text) :: place)),
    ("textDocument/prepareRename", .record "TextDocumentPositionParams" place),
    ("textDocument/linkedEditingRange", .record "LinkedEditingRangeParams" place),
    ("workspace/symbol", .record "WorkspaceSymbolParams" [("query", .text)]),
    ("workspaceSymbol/resolve",
      .record "WorkspaceSymbol" [("name", .text), ("kind", .anything), ("location", .anything)]),
    ("workspace/willCreateFiles", .record "CreateFilesParams" [("files", .list .anything)]),
    ("workspace/willRenameFiles", .record "RenameFilesParams" [("files", .list .anything)]),
    ("workspace/willDeleteFiles", .record "DeleteFilesParams" [("files", .list .anything)]),
    ("workspace/executeCommand", .record "ExecuteCommandParams" [("command", .text)])]

/-- The methods of notices. -/
def noticeMethods : List String :=
  ["initialized", "textDocument/didOpen", "textDocument/didChange", "textDocument/willSave",
    "textDocument/didSave", "textDocument/didClose", "workspace/didChangeConfiguration",
    "workspace/didChangeWorkspaceFolders", "workspace/didCreateFiles", "workspace/didRenameFiles",
    "workspace/didDeleteFiles", "workspace/didChangeWatchedFiles"]

/-! ## Reading parameters -/

/-- The parameters of a call if they have a shape, and otherwise what is wrong with them. -/
def readParams (shape : Shape) : Option Json → Except String Json
  | none => .error "Missing params field"
  | some j =>
    match shape.fault? j with
    | some fault => .error fault
    | none => .ok j

/-- The value at a path of fields. -/
def valueAt? (j : Json) (path : List String) : Option Json := path.foldlM Json.field? j

/-- The URI at a path. -/
def uriAt? (j : Json) (path : List String) : Option Uri :=
  ((valueAt? j path).bind Json.string?).bind fun s => (Uri.read s.toList).toOption

/-- The text at a path. -/
def textAt? (j : Json) (path : List String) : Option Text :=
  ((valueAt? j path).bind Json.string?).map String.toList

/-- The number at a path. -/
def wordAt (j : Json) (path : List String) : UInt32 :=
  match valueAt? j path with
  | some (.whole n) => UInt32.ofNat n.toNat
  | _ => 0

/-- The items at a path. -/
def itemsAt (j : Json) (path : List String) : List Json :=
  match valueAt? j path with
  | some (.array items) => items
  | _ => []

/-- The URI of the document that parameters name. -/
def documentUri? (j : Json) : Option Uri := uriAt? j ["textDocument", "uri"]

/-! ## Messages -/

/-- The call for completion. -/
def completionCall (j : Json) : Call :=
  match documentUri? j with
  | some uri =>
    .complete uri ⟨wordAt j ["position", "line"], wordAt j ["position", "character"]⟩
  | none => .misplaced

/-- What a call with a method and parameters asks for. -/
def callOf (method : String) (params : Option Json) : Message :=
  if method = "initialize" then
    match readParams .starting params with
    | .ok j => .call (.start (uriAt? j ["rootUri"]))
    | .error fault => .call (.badStart fault)
  else if method = "shutdown" then
    match params with
    | none => .call .stop
    | some j => .call (.badStop ("Unexpected params: " ++ String.ofList (Json.print j)))
  else if method = "exit" then .notice .exit
  else if method = "textDocument/completion" then
    match readParams .completing params with
    | .ok j => .call (completionCall j)
    | .error fault => .call (.refused (.invalidParams fault))
  else if "$/".toList.isPrefixOf method.toList then .call .optional
  else if noticeMethods.contains method then .call .misplaced
  else
    match unsupported.lookup method with
    | none => .call (.unknown method)
    | some shape =>
      match readParams shape params with
      | .ok _ => .call (.refused .unsupported)
      | .error fault => .call (.refused (.invalidParams fault))

/-- What a notice about a document tells, if its parameters have the right shape. -/
def documentNotice? (method : String) (j : Json) : Option Notice := do
  let uri ← documentUri? j
  if method = "textDocument/didOpen" then
    return .opened uri (← textAt? j ["textDocument", "languageId"])
      (← textAt? j ["textDocument", "text"])
  else if method = "textDocument/didChange" then
    return .changed uri ((itemsAt j ["contentChanges"]).filterMap (textAt? · ["text"]))
  else if method = "textDocument/didSave" then return .saved uri (textAt? j ["text"])
  else if method = "textDocument/didClose" then return .closed uri
  else none

/-- The shape of the parameters of a notice that is heeded. -/
def noticeShape? (method : String) : Option Shape :=
  [("initialized", Shape.record "InitializedParams" []), ("textDocument/didOpen", .opening),
    ("textDocument/didChange", .changing), ("textDocument/didSave", .saving),
    ("textDocument/didClose", .closing)].lookup method

/-- What a notice with a method and parameters tells. -/
def noticeOf (method : String) (params : Option Json) : Notice :=
  if method = "exit" then .exit
  else if method = "initialized" then .started
  else
    match noticeShape? method with
    | none => .other
    | some shape =>
      match readParams shape params with
      | .ok j =>
        if method = "initialized" then .started else (documentNotice? method j).getD .other
      | .error _ => .other

/-- The message with a method and parameters; a call has an identifier and a notice has none. -/
def messageOf (method : String) (params : Option Json) (isCall : Bool) : Message :=
  if isCall then callOf method params else .notice (noticeOf method params)

end GraphLint.Server
