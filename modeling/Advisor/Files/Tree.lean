import Advisor.Files.PathName

/-!
# File trees

Files, folders and symbolic links. A `World` is the tree below the root together with the folder
that relative paths start from and with the `Machine` that has the files. `World.find?` follows
links and wants every step to exist, whereas `World.resolve` takes what does not exist as it is
written.
-/

namespace Advisor

/-- A tree of files. -/
inductive FileTree where
  /-- A file with its bytes and, if it cannot be read, the reason. -/
  | file (bytes : ByteArray) (fault : Option String)
  | folder (entries : List (String × FileTree))
  | link (target : String)
  deriving Inhabited

namespace FileTree

def isFile : FileTree → Bool
  | file _ _ => true
  | _ => false

def isFolder : FileTree → Bool
  | folder _ => true
  | _ => false

/-- The entry of a name in a folder. -/
def entry? (t : FileTree) (name : String) : Option FileTree :=
  match t with
  | folder entries => entries.lookup name
  | _ => none

/-- What stands at a place, without following links. -/
def at? (t : FileTree) : List String → Option FileTree
  | [] => some t
  | n :: rest =>
    match t.entry? n with
    | some child => child.at? rest
    | none => none

/-- Sets an entry of a folder: an old one keeps its position. -/
def setEntry (entries : List (String × FileTree)) (name : String) (t : FileTree) :
    List (String × FileTree) :=
  match entries with
  | [] => [(name, t)]
  | (n, old) :: rest => if n = name then (n, t) :: rest else (n, old) :: setEntry rest name t

/-- Puts something at a place, whose folder must be there. -/
def put (t : FileTree) : List String → FileTree → Option FileTree
  | [], new => some new
  | n :: rest, new =>
    match t with
    | folder entries =>
      if rest.isEmpty then some (folder (setEntry entries n new))
      else match entries.lookup n with
        | some child => (child.put rest new).map fun c => folder (setEntry entries n c)
        | none => none
    | _ => none

mutual

/-- All files with their places. -/
def files (place : List String) : FileTree → List (List String × ByteArray)
  | file bytes _ => [(place, bytes)]
  | folder entries => filesIn place entries
  | link _ => []

/-- All files of some entries with their places. -/
def filesIn (place : List String) : List (String × FileTree) → List (List String × ByteArray)
  | [] => []
  | (n, t) :: rest => files (place ++ [n]) t ++ filesIn place rest

end

end FileTree

/-- What differs from one machine to the next. A reader of nested data uses up room at every level,
and how many levels there is room for depends on the machine and on how much of the room is taken
when the reader starts. -/
structure Machine where
  /-- How deep a manifest may be nested. -/
  manifestNesting : Nat
  /-- How much nesting there may be in a configuration. -/
  configNesting : Nat
  /-- Whether standard input comes with line feeds for all line ends. Files always do. -/
  unifiesInput : Bool
  deriving DecidableEq, Inhabited

/-- A machine with the room that there usually is, which hands over standard input as it comes. -/
def Machine.usual : Machine :=
  { manifestNesting := 990, configNesting := 985, unifiesInput := false }

/-- The tree below the root, the folder that relative paths start from, and the machine. -/
structure World where
  tree : FileTree
  here : List String
  machine : Machine
  deriving Inhabited

/-- What can go wrong with a path. -/
inductive PathFault where
  | linkLoop
  | missing
  | notFolder
  | isFolder
  | exists
  deriving DecidableEq

namespace World

/-- How many links are followed at most on the way to a file. -/
def maxLinks : Nat := 40

/-- Walks on from a folder that is given by its real place. Every step must exist; links are
followed. Returns the real place and what stands there. -/
def walk (w : World) : Nat → List String → List String → Option (List String × FileTree)
  | _, place, [] => (w.tree.at? place).map (place, ·)
  | links, place, n :: rest =>
    match w.tree.at? place with
    | some (.folder entries) =>
      if n == ".." then walk w links place.dropLast rest
      else match entries.lookup n with
        | none => none
        | some (.link target) =>
          match links with
          | 0 => none
          | links + 1 =>
            let t := PathName.ofString target
            walk w links (if t.isAbsolute then [] else place) (t.names ++ rest)
        | some _ => walk w links (place ++ [n]) rest
    | _ => none
termination_by links _ steps => (links, steps.length)

/-- What a path leads to. -/
def find? (w : World) (p : PathName) : Option (List String × FileTree) :=
  w.walk maxLinks (if p.isAbsolute then [] else w.here) p.names

/-- What an entry of a folder leads to. -/
def follow? (w : World) (folder : List String) (name : String) (t : FileTree) :
    Option (List String × FileTree) :=
  match t with
  | .link _ => w.walk maxLinks folder [name]
  | _ => some (folder ++ [name], t)

/-- How many links are replaced at most in a path. -/
def maxReplacements : Nat := 1000

/-- The real place of a path. What does not exist is taken as it is written; a loop of links is an
error. -/
def resolveFrom (w : World) : Nat → List String → List String → Except PathFault (List String)
  | _, place, [] => .ok place
  | links, place, n :: rest =>
    if n == ".." then resolveFrom w links place.dropLast rest
    else match w.tree.at? (place ++ [n]) with
      | some (.link target) =>
        match links with
        | 0 => .error .linkLoop
        | links + 1 =>
          let t := PathName.ofString target
          resolveFrom w links (if t.isAbsolute then [] else place) (t.names ++ rest)
      | _ => resolveFrom w links (place ++ [n]) rest
termination_by links _ steps => (links, steps.length)

/-- The real place of a path. -/
def resolve (w : World) (p : PathName) : Except PathFault (List String) :=
  w.resolveFrom maxReplacements (if p.isAbsolute then [] else w.here) p.names

/-! ## Writing -/

/-- Makes the folder `names`, counted from the real place `place`, and those on the way to it. -/
def makeFolders (w : World) (place : List String) : List String → Except PathFault World
  | [] => .ok w
  | n :: rest =>
    match w.tree.at? place with
    | some (.folder entries) =>
      if n == ".." then makeFolders w place.dropLast rest
      else match entries.lookup n with
        | none =>
          match w.tree.put (place ++ [n]) (.folder []) with
          | some tree => makeFolders { w with tree } (place ++ [n]) rest
          | none => .error .notFolder
        | some (.folder _) => makeFolders w (place ++ [n]) rest
        | some t =>
          match w.follow? place n t with
          | some (real, .folder _) => makeFolders w real rest
          | some _ => .error (if rest.isEmpty then .exists else .notFolder)
          | none => .error .exists
    | _ => .error .notFolder

/-- Writes a file at a path whose folder exists. A link is followed; what it leads to is made if it
does not exist. -/
def write (w : World) (p : PathName) (bytes : ByteArray) : Except PathFault World := do
  let place ← w.resolve p
  match w.tree.at? place with
  | some (.folder _) => .error .isFolder
  | _ =>
    match w.tree.put place (.file bytes none) with
    | some tree => return { w with tree }
    | none => .error .missing

/-- Writes a file at a path, and makes the folders on the way to it. -/
def writeWithFolders (w : World) (p : PathName) (bytes : ByteArray) : Except PathFault World := do
  let w ← w.makeFolders (if p.isAbsolute then [] else w.here) p.names.dropLast
  w.write p bytes

/-- The files of a world that another one does not have, or has with other bytes, by their
places. -/
def changes (before after : World) : List (List String × ByteArray) :=
  (after.tree.files []).filter fun (place, bytes) =>
    match before.tree.at? place with
    | some (.file old _) => old.toList != bytes.toList
    | _ => true

end World

end Advisor
