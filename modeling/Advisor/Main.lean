import Advisor.CommandLine.Run

/-!
# The program

Reads what a command line mentions into a `World`, runs the command line, and writes what the run
has changed.
-/

namespace Advisor.Program

/-- The names on the way to an absolute path. -/
def placeOf (path : String) : List String := (PathName.ofString path).names

/-- The path of a place. -/
def pathOf (place : List String) : String := PathName.toString ⟨"/", place⟩

/-- Puts something at a place, with the folders on the way to it. -/
def put (w : World) (place : List String) (t : FileTree) : World :=
  match w.makeFolders [] place.dropLast with
  | .error _ => w
  | .ok w =>
    match w.tree.put place t with
    | some tree => { w with tree }
    | none => w

/-- Reads the file at a place. One that cannot be read keeps the reason. -/
def readFile (place : List String) : IO FileTree := do
  try
    return .file (← IO.FS.readBinFile (pathOf place)) none
  catch e =>
    return .file .empty (some e.toString)

/-- Reads what stands at a place and below it. Files that links lead to are read as well. -/
partial def read (w : World) (place : List String) : IO World := do
  let path ← IO.FS.realPath (pathOf place.dropLast)
  let entry := path / place.getLastD ""
  match (← entry.symlinkMetadata).type with
  | .dir =>
    let w := match w.makeFolders [] place with
      | .ok w => w
      | .error _ => w
    (← entry.readDir).foldlM (fun w e => read w (place ++ [e.fileName])) w
  | .symlink =>
    try
      let target := (← IO.FS.realPath entry).toString
      let w := put w place (.link target)
      if ← entry.isDir then return w else return put w (placeOf target) (← readFile (placeOf target))
    catch _ => return put w place (.link "")
  | _ => return put w place (← readFile place)

/-- Reads what a path leads to, if there is something. -/
def readPath (w : World) (path : String) : IO World := do
  try
    read w (placeOf (← IO.FS.realPath path).toString)
  catch _ => return w

/-- All of standard input. -/
partial def readInput (input : IO.FS.Stream) (sofar : ByteArray) : IO ByteArray := do
  let more ← input.read 65536
  if more.isEmpty then return sofar else readInput input (sofar ++ more)

/-- The world that a command line needs to see, and standard input if it asks for it. -/
def gather (words : List String) : IO (World × ByteArray) := do
  let here := placeOf (← IO.currentDir).toString
  let empty : World := ⟨.folder [], here, .usual⟩
  let w := match empty.makeFolders [] here with
    | .ok w => w
    | .error _ => empty
  match ScanArguments.parse words with
  | .error _ => return (w, .empty)
  | .ok a =>
    let w ← readPath w (a.config.getD Config.fileName)
    if a.path == Run.inputPath then return (w, ← readInput (← IO.getStdin) .empty)
    else return (← readPath w a.path, .empty)

/-- Writes the files that a run has changed. -/
def save (before after : World) : IO Unit :=
  (World.changes before after).forM fun (place, bytes) => do
    IO.FS.createDirAll (pathOf place.dropLast)
    IO.FS.writeBinFile (pathOf place) bytes

end Advisor.Program

open Advisor in
/-- Runs a command line. -/
def main (words : List String) : IO UInt32 := do
  let (w, input) ← Program.gather words
  match Run.commandLine w input words with
  | .error f =>
    (← IO.getStderr).putStrLn (Report.programName ++ ": " ++ f.message)
    return 1
  | .ok o =>
    Program.save w o.world
    (← IO.getStdout).putStr o.stdout
    (← IO.getStderr).putStr o.stderr
    return o.exitCode.toUInt32
