import Advisor.Text.Blank
import Advisor.Text.Case

/-!
# Path names

A path as it is written: a root, which may be empty, and the names that follow it. Empty names and
single dots leave no trace, while double dots stay.
-/

namespace Advisor

/-- A path name. -/
structure PathName where
  /-- Nothing, `/`, or the two slashes that some systems set apart. -/
  root : String
  names : List String
  deriving DecidableEq, Inhabited

namespace PathName

/-- The names between the slashes of a text. -/
def namesOf (cs : List Char) : List String :=
  ((Text.splitOn '/' cs).filter fun n => !n.isEmpty && n != ['.']).map String.ofList

/-- Reads a path name. -/
def ofString (s : String) : PathName :=
  let cs := s.toList
  let slashes := (cs.takeWhile (· == '/')).length
  { root := if slashes = 0 then "" else if slashes = 2 then "//" else "/"
    names := namesOf cs }

/-- Writes a path name. -/
def toString (p : PathName) : String :=
  let body := "/".intercalate p.names
  if p.root.isEmpty && p.names.isEmpty then "." else p.root ++ body

/-- The pieces of a path name: the root, if there is one, and the names. -/
def parts (p : PathName) : List String := if p.root.isEmpty then p.names else p.root :: p.names

/-- The last name, or nothing. -/
def name (p : PathName) : String := p.names.getLast?.getD ""

/-- Whether the path begins at a root. -/
def isAbsolute (p : PathName) : Bool := !p.root.isEmpty

/-- The ending of a name: from its last dot on, unless the name begins or ends there. -/
def suffixOf (name : List Char) : List Char :=
  let (ending, front) := name.reverse.span (· != '.')
  match front with
  | '.' :: stem => if stem.isEmpty || ending.isEmpty then [] else '.' :: ending.reverse
  | _ => []

/-- The ending of the last name, in small letters. -/
def suffix (p : PathName) : String := String.ofList (Text.lower (suffixOf p.name.toList))

end PathName

end Advisor
