import Commentary.Command

/-!
# The command line tool

Loads the files that a command line speaks of, runs the command, prints what it says and writes what
it changes.
-/

namespace Commentary.Main

/-- What a path leads to on disk. -/
def probe (path : String) : IO (Option Entry) := do
  let path := (← IO.currentDir) / path
  if ← path.isDir then return some .directory
  else if ← path.pathExists then return some (.file (← IO.FS.readBinFile path).toList)
  else return none

/-- Load what a path leads to, and the directories on the way. -/
def load (tree : FileTree) (path : Path) : IO FileTree := do
  let mut tree := tree
  for n in List.range path.parts.length do
    let ancestor := Path.toText { path with parts := path.parts.take (n + 1) }
    if let some entry ← probe (String.ofList ancestor) then
      if let .ok place := tree.locate ancestor then
        tree := tree.put place entry
  return tree

/-- Load everything that a command can look at. -/
def loadFor (i : Invocation) : IO FileTree := do
  let tree ← load .empty (Path.ofText i.input)
  match Command.target i with
  | some path => load tree path
  | none => return tree

/-- A place as a path on disk. -/
def diskPath (place : Place) : String :=
  match place with
  | [] => "."
  | first :: rest =>
    let path := List.intercalate ['/'] (first :: rest)
    String.ofList (if first == FileTree.rootName then path.drop 1 else path)

/-- Write to disk what a run has changed: new directories, then files. -/
def store (before after : FileTree) : IO Unit := do
  let changed := after.entries.filter fun e => before.get? e.1 != some e.2
  for (place, entry) in changed do
    if entry == .directory then IO.FS.createDirAll (diskPath place)
  for (place, entry) in changed do
    if let .file content := entry then IO.FS.writeBinFile (diskPath place) ⟨content.toArray⟩

/-- How the tool is called. -/
def usageLine : String :=
  "usage: " ++ String.ofList Settings.default.toolName ++
    " [-v] view SOURCE | write SOURCE -o OUTPUT [-f] | readme SOURCE [-f]\n" ++
    "options: --symmetric-quotes, --no-symmetric-quotes, -k KEY, --encoding ENCODING"

/-- Print what has not been printed yet. -/
def printFrom (shown : Printed) (out err : Text) : IO Unit := do
  IO.eprint (String.ofList (err.drop shown.err.length))
  IO.print (String.ofList (out.drop shown.out.length))
  (← IO.getStdout).flush

/-- Print and write what a run has come to. -/
def finish (shown : Printed) (before after : FileTree) : Outcome → IO UInt32
  | .usage => do
    IO.eprintln usageLine
    return 2
  | .finished exit out err => do
    printFrom shown out err
    store before after
    return exit.toUInt32
  | .failed e out => do
    printFrom shown out []
    IO.eprintln (String.ofList e.message)
    store before after
    return 1
  | .unanswered out err => do
    printFrom shown out err
    return 1

/-- Run a command line, asking for as many answers as it needs. -/
partial def converse (tree : FileTree) (args answers : List Text) (shown : Printed) : IO UInt32 := do
  let (outcome, after) := Command.run tree args answers
  match outcome with
  | .unanswered out err =>
    printFrom shown out err
    let line ← (← IO.getStdin).getLine
    if line.isEmpty then finish ⟨out, err⟩ tree after (Command.atInputEnd outcome)
    else converse tree args (answers ++ [line.toList]) ⟨out, err⟩
  | outcome => finish shown tree after outcome

end Commentary.Main

/-- Run the tool. -/
def main (args : List String) : IO UInt32 := do
  let args := args.map String.toList
  let tree ← match Commentary.Invocation.ofArguments? args with
    | some i => Commentary.Main.loadFor i
    | none => pure .empty
  Commentary.Main.converse tree args [] {}
