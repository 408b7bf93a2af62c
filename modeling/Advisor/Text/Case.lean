import Advisor.Text.CaseTable
import Advisor.Text.Edges

/-!
# Letter case

`upper`, `lower` and `capitalize` with the full mappings of Unicode, where one character may become
several. The capital sigma has two small forms, and the one at the end of a word is chosen by what
stands around it.
-/

namespace Advisor.Text

/-- The image of a code point under runs, if it lies on one. -/
def shifted : List Nat → Nat → Option Nat
  | first :: last :: step :: image :: rest, n =>
    if first ≤ n && n ≤ last && (n - first) % step == 0 then some (image + (n - first))
    else shifted rest n
  | _, _ => none

/-- The image of a character under expansions and runs, if it has one. -/
def mapped (runs : List Nat) (expansions : List (Nat × List Nat)) (c : Char) :
    Option (List Char) :=
  match expansions.lookup c.toNat with
  | some ns => some (ns.map Char.ofNat)
  | none => (shifted runs c.toNat).map fun n => [Char.ofNat n]

/-- The capital form of a character. -/
def upperChar (c : Char) : List Char :=
  if c.toNat < 128 then [c.toUpper] else (mapped upperRuns upperExpansions c).getD [c]

/-- The small form of a character, the final sigma apart. -/
def lowerChar (c : Char) : List Char :=
  if c.toNat < 128 then [c.toLower] else (mapped lowerRuns lowerExpansions c).getD [c]

/-- The form of a character at the head of a word. -/
def titleChar (c : Char) : List Char :=
  if c.toNat < 128 then [c.toUpper] else (mapped titleRuns titleExpansions c).getD (upperChar c)

/-- The capital form of a text. -/
def upper (cs : List Char) : List Char := cs.flatMap upperChar

/-- Whether the nearest character that is not ignorable has case. -/
def nextToCased (cs : List Char) : Bool :=
  match cs.dropWhile fun c => inside ignorableEdges c.toNat with
  | c :: _ => inside casedEdges c.toNat
  | [] => false

/-- The small form of the characters `rest`, with those `before` them in reverse. -/
def lowerAfter (before : List Char) : List Char → List Char
  | [] => []
  | c :: rest =>
    let small :=
      if c == 'Σ' then if nextToCased before && !nextToCased rest then ['ς'] else ['σ']
      else lowerChar c
    small ++ lowerAfter (c :: before) rest

/-- The small form of a text. -/
def lower (cs : List Char) : List Char := lowerAfter [] cs

/-- A text with its first character capital and all others small. -/
def capitalize : List Char → List Char
  | [] => []
  | c :: rest => titleChar c ++ lowerAfter [c] rest

/-- The small form of a character that is one character, as the comparison without regard to case
takes it. -/
def foldChar (c : Char) : Char :=
  if c.toNat < 128 then c.toLower
  else if c == 'İ' then 'i'
  else match shifted lowerRuns c.toNat with
    | some n => Char.ofNat n
    | none => c

end Advisor.Text
