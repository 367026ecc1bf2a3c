import GraphLint.Command.Colours
import GraphLint.Command.Launch
import GraphLint.Command.Program
import GraphLint.Server.Frame
/-! # The two programs

The outer layer: it reads the files that a run may look at into a file system as a value, calls the
library, and writes what the library answers.  Called as `kro-lsp` it serves an editor over the
standard streams, and otherwise it is the command `kro`. -/
open GraphLint

namespace GraphLint.Outer

/-- The place of a path, taken from the working directory, or from the root if that was removed. -/
def located (path : String) := do
  return (← tryCatch IO.currentDir fun _ => IO.FS.realPath "/") / path

/-- The absolute path of what a path leads to, if it leads anywhere. -/
def real (path : String) : IO (Option String) := do
  try
    return some (← IO.FS.realPath (← located path)).toString
  catch _ => return none

/-- The file at a path. -/
def loadFile (path : String) : IO Files.Node := do
  try
    return .file (← IO.FS.readBinFile (← located path)).toList
  catch _ => return .sealed

/-- What stands at a path, with everything down to a depth below it. -/
def load (depth : Nat) (path : String) : IO (Option Files.Node) := do
  try
    let place ← located path
    match (← place.symlinkMetadata).type, depth with
    | .dir, 0 => return some (.directory [])
    | .dir, depth + 1 =>
      let mut entries : Array (Text × Files.Node) := #[]
      for entry in ← place.readDir do
        if let some node ← load depth (path ++ "/" ++ entry.fileName) then
          entries := entries.push (entry.fileName.toList, node)
      return some (.directory entries.toList)
    | .symlink, _ => return (← real path).map fun target => .link target.toList
    | _, _ => return some (← loadFile path)
  catch _ => return none

/-- The names that lead to an absolute path. -/
def namesOf (path : String) : List Text :=
  (Files.parts path.toList).filter fun part => !Files.isIdle part

/-- Stands for the names of a working directory that was removed: no entry has an empty name. -/
def nowhere : List Text := [[]]

/-- The names that lead to the working directory. -/
def workingNames : IO (List Text) := do
  try
    return namesOf (← IO.currentDir).toString
  catch _ => return nowhere

/-- How deep directories are read. -/
def fullDepth : Nat := 1000

/-- The root with what stands at a path, down to a depth. -/
def bring (root : Files.Node) (path : String) (depth : Nat := fullDepth) : IO Files.Node := do
  let some path ← real path | return root
  match ← load depth path with
  | some node => return Files.Node.put node (namesOf path) root
  | none => return root

/-- The root with the ignore files of the directories above a path. -/
def bringRules (root : Files.Node) (path : String) : IO Files.Node := do
  let some path ← real path | return root
  let mut root := root
  for above in Files.placesAbove (namesOf path) do
    for name in [".ignore", ".gitignore", ".git", ".git/info/exclude"] do
      root ← bring root (String.ofList (Files.child (Files.absolute above) name.toList)) 0
  return root

/-- The directory that a path is in. -/
def parent (path : Text) : String :=
  String.ofList (Files.joinParts ((Files.parts path).dropLast ++ [['.']]))

/-- The root with the working directory. -/
def withWorking (working : List Text) (root : Files.Node) : Files.Node :=
  if working = nowhere || (root.at? working).isSome then root
  else Files.Node.put (.directory []) working root

/-- The files that an action may look at. -/
def filesFor (action : Command.Action) : IO Files.FileSystem := do
  let working ← workingNames
  let mut root : Files.Node := .directory []
  match action with
  | .check request =>
    let paths := request.paths.map String.ofList
    for path in paths do
      root ← bringRules root path
    for path in paths do
      root ← bring root path
    root ← bring root (String.ofList (request.config.getD Config.fileName))
  | .setUp path => root ← bring root (parent path) 1
  return ⟨withWorking working root, working⟩

/-- Whether colours are on for a stream. -/
def colours (stream : IO.FS.Stream) : IO Bool := do
  let settings : Command.ColourSettings :=
    ⟨← IO.getEnv "CLICOLOR_FORCE", ← IO.getEnv "NO_COLOR", ← stream.isTty⟩
  return settings.areOn

/-- Writes what is printed and answers the code to end with. -/
def emit (printed : Command.Printed) : IO UInt32 := do
  let output ← IO.getStdout
  let errors ← IO.getStderr
  output.putStr (String.ofList (printed.output.write (← colours output)))
  errors.putStr (String.ofList (printed.errors.write (← colours errors)))
  return UInt32.ofNat printed.exitCode

/-- Writes the file that an action has made. -/
def store (after : Files.FileSystem) (action : Command.Action) : IO Unit := do
  match action with
  | .check _ => return
  | .setUp path =>
    match after.read path with
    | .ok content => IO.FS.writeBinFile (String.ofList path) ⟨content.toArray⟩
    | .error _ => return

/-- The command `kro`. -/
def command (arguments : List Text) : IO UInt32 := do
  match Command.readAction arguments with
  | .error stop => emit (stop.answer Command.programGrammar.path)
  | .ok action =>
    let (printed, after) := Command.perform (← filesFor action) action
    if printed.exitCode = 0 then store after action
    emit printed

/-- The files that a message may look at. -/
def filesForMessage (content : Text) : IO Files.FileSystem := do
  let working ← workingNames
  match (Json.read? content).bind Server.incoming? with
  | some ⟨.call (.start root), _⟩ =>
    match Server.configPath? root with
    | some path => return ⟨← bring (.directory []) (String.ofList path), working⟩
    | none => return ⟨.directory [], working⟩
  | _ => return ⟨.directory [], working⟩

/-- Reads a header and answers how many octets follow it. -/
partial def readHeader (input : IO.FS.Stream) (length : Nat) : IO (Option Nat) := do
  let line ← input.getLine
  if line.isEmpty then return none
  let line := Text.trim line.toList
  if line.isEmpty then return some length
  readHeader input ((Server.announced? line).getD length)

/-- Reads octets until there are as many as announced. -/
partial def readContent (input : IO.FS.Stream) (length : Nat) (content : ByteArray) :
    IO ByteArray := do
  if length ≤ content.size then return content
  let more ← input.read (USize.ofNat (length - content.size))
  if more.isEmpty then return content
  readContent input length (content ++ more)

/-- Serves messages until the input ends or the connection exits. -/
partial def serve (input output : IO.FS.Stream) (server : Server) : IO Unit := do
  let some length ← readHeader input 0 | return
  let content ← readContent input length .empty
  let text := (Text.decode? content.toList).getD []
  let (server, messages) := Server.receive (← filesForMessage text) server 0 text
  for message in messages do
    output.write ⟨(Server.frame message).toArray⟩
  output.flush
  if (server.connections 0).phase = .exited then return
  serve input output server

/-- The command `kro-lsp`. -/
def language (arguments : List Text) : IO UInt32 := do
  match Command.readLaunch arguments with
  | .error stop => emit (stop.answer Command.launchGrammar.path)
  | .ok .stdio =>
    serve (← IO.getStdin) (← IO.getStdout) {}
    return 0
  | .ok (.listen address) =>
    (← IO.getStderr).putStrLn ("Error: cannot listen on " ++ String.ofList address)
    return 1

end GraphLint.Outer

/-- Runs the program that it is called as. -/
def main (arguments : List String) : IO UInt32 := do
  let arguments := arguments.map String.toList
  let name := (← IO.appPath).fileName.getD ""
  if name = "kro-lsp" then Outer.language arguments else Outer.command arguments
