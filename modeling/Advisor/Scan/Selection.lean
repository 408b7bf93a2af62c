import Advisor.Files.Tree

/-!
# Selecting files

Which files of a tree are scanned. Names that are excluded or generated are judged by all the names
on the way from the root, endings and sizes by the file itself. `Selection.candidates` walks a
folder the way a listing does: the files of a folder by name, then its subfolders by name. Links to
folders are not entered.

Every folder can be listed here and every file has a size. Folders that may not be listed, and files
that are gone or may not be looked at by the time their size is asked for, are left out: only the
content of a file can fail to be read (`FileTree.file`).
-/

namespace Advisor

/-- What the choice of files depends on. -/
structure Selection where
  excludes : List String
  /-- The endings that are scanned, in small letters and with their dots. -/
  extensions : List String
  /-- The greatest size of a file; there is no limit if it is not positive. -/
  maxKilobytes : Int
  skipGenerated : Bool
  deriving DecidableEq, Inhabited

/-- The kind of content that a name stands for. -/
def kindOfName? (p : PathName) : Option String :=
  if [".js", ".jsx", ".mjs", ".cjs"].contains p.suffix then some "code"
  else if p.suffix == ".json" then some "json"
  else none

namespace Selection

/-- An ending in small letters and with its dot. -/
def normalExtension (ext : String) : String :=
  let cs := Text.lower ext.toList
  String.ofList (if ext.toList.head? == some '.' then cs else '.' :: cs)

/-- Whether some piece of a path is excluded. -/
def excluded (excludes : List String) (parts : List String) : Bool := excludes.any parts.contains

/-- Folders that hold what tools have made. -/
def generatedFolders : List String :=
  ["node_modules", "bower_components", ".next", ".nuxt", ".cache", "coverage"]

/-- Files that tools write. -/
def generatedFiles : List String := ["package-lock.json", "npm-shrinkwrap.json"]

/-- Endings of files that tools write. -/
def generatedEndings : List String := [".min.js", ".bundle.js", ".map"]

/-- Whether a path leads to something that tools have made. -/
def isGenerated (p : PathName) : Bool :=
  p.parts.any generatedFolders.contains || generatedFiles.contains p.name ||
    (let name := Text.lower p.name.toList
     generatedEndings.any fun e => e.toList.isSuffixOf name)

/-- The path of a real place. -/
def pathOf (place : List String) : PathName := ⟨"/", place⟩

/-- Whether a place is left out of the walk. -/
def prunes (s : Selection) (place : List String) : Bool :=
  excluded s.excludes (pathOf place).parts || (s.skipGenerated && isGenerated (pathOf place))

/-- Entries in the order of their names. -/
def byName {α : Type} (entries : List (String × α)) : List (String × α) :=
  entries.mergeSort fun a b => decide (a.1 ≤ b.1)

/-- Whether an entry of a folder counts as a folder itself: links are followed. -/
def countsAsFolder (w : World) (place : List String) (name : String) (t : FileTree) : Bool :=
  match t with
  | .file _ _ => false
  | .folder _ => true
  | .link _ => ((w.follow? place name t).map fun r => r.2.isFolder).getD false

/-- The files of one folder that are not excluded. -/
def filesOf (w : World) (s : Selection) (place : List String) (entries : List (String × FileTree)) :
    List (List String) :=
  ((byName entries).filter fun (n, t) => !countsAsFolder w place n t).map (fun e => place ++ [e.1])
    |>.filter fun p => !excluded s.excludes (pathOf p).parts

mutual

/-- The places of the files in and below a folder that are not excluded. -/
def candidates (w : World) (s : Selection) (place : List String) : FileTree → List (List String)
  | .folder entries =>
    filesOf w s place entries ++ ((byName (candidatesBelow w s place entries)).map (·.2)).flatten
  | _ => []

/-- For every subfolder that is entered, its name and what is found in it. -/
def candidatesBelow (w : World) (s : Selection) (place : List String) :
    List (String × FileTree) → List (String × List (List String))
  | [] => []
  | (n, t) :: rest =>
    if t.isFolder && !s.prunes (place ++ [n]) then
      (n, candidates w s (place ++ [n]) t) :: candidatesBelow w s place rest
    else candidatesBelow w s place rest

end

/-- What is said of a file that is left out for its size. -/
inductive Judgement where
  | rejected
  | tooLarge
  | accepted
  deriving DecidableEq

/-- Judges a file by its name, its size and its ending. Only files are accepted. -/
def judge (w : World) (s : Selection) (place : List String) : Judgement :=
  if s.skipGenerated && isGenerated (pathOf place) then .rejected
  else match w.find? (pathOf place) with
    | some (_, .file bytes _) =>
      if 0 < s.maxKilobytes && s.maxKilobytes * 1024 < bytes.size then .tooLarge
      else if s.extensions.contains (pathOf place).suffix then .accepted
      else .rejected
    | _ => .rejected

end Selection

end Advisor
