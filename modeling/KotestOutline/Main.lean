import KotestOutline.CommandLine.Run
import KotestOutline.Concrete

/-!
# The command line

Reads the directories around the working directory into a file system value, runs the command, and
writes what comes of it. The concrete tree of a Kotlin source is read from the file beside it whose
name continues with `.cst.json`.
-/

namespace KotestOutline.Main

/-- The text of a file, none if it cannot be read as text. -/
def readText? (path : String) : IO (Option String) := do
  try return String.fromUTF8? (← IO.FS.readBinFile path) catch _ => return none

/-- The content of a file, with its concrete tree if there is one beside it. -/
def readContent (path : String) : IO FileContent := do
  let rows ← if isKotlinName path then readText? (path ++ ".cst.json") else pure none
  return ⟨← readText? path, (rows.bind Json.read?).bind Cst.ofJson?⟩

/-- Adds the entries of a directory at a place; `depth` limits how far down. -/
def load (depth : Nat) (fs : FileSystem) (place : List String) : IO FileSystem := do
  let path ← IO.FS.realPath (FileSystem.placePath place)
  let entries ← try path.readDir catch _ => pure #[]
  let mut fs := fs
  for entry in entries do
    let inside := place ++ [entry.fileName]
    if ← entry.path.isDir then
      fs := fs.put inside .directory
      match depth with
      | 0 => pure ()
      | n + 1 => if !skippedNames.contains entry.fileName then fs ← load n fs inside
    else
      fs := fs.put inside (.file (← readContent (FileSystem.placePath inside)))
  return fs

/-- The file system around the working directory: what lies below it, and what its parents hold. -/
def loadAround : IO FileSystem := do
  let path ← IO.currentDir
  let place := (((segments '/' path.toString.toList).map String.ofList).filter (!·.isEmpty))
  let mut fs : FileSystem := ⟨[], place⟩
  for n in List.range place.length do
    fs ← load 0 fs (place.take n)
  load 64 (fs.putDirectory place) place

/-- The text of a failure: the outermost cause, and those behind it. -/
def failureText (chain : List String) : String :=
  match chain with
  | [] => "Error"
  | [e] => "Error: " ++ e
  | e :: causes => "Error: " ++ e ++ "\n\nCaused by:\n" ++
      "\n".intercalate (causes.map ("    " ++ ·))

end KotestOutline.Main

open KotestOutline in
/-- Runs the command that the arguments ask for. -/
def main (args : List String) : IO UInt32 := do
  match Command.ofArguments args with
  | .error e =>
    if e == .helpRequest || e == .versionRequest then
      IO.println e.message
      return 0
    else
      IO.eprintln e.message
      return 2
  | .ok command =>
    let outcome := command.execute (← Main.loadAround)
    IO.print outcome.stdout
    if let some (path, text) := outcome.saved then IO.FS.writeFile path text
    match outcome.failure with
    | none => return 0
    | some e =>
      IO.eprintln (Main.failureText e.chain)
      return 1
