/-!
# Syntax trees

A parse tree as its reader sees it: every node has a kind, the bytes it covers, the row and byte
column where it starts, and two flags. `Spot` is a node together with the kinds of the nodes around
it. `Spot.preorder` lists a subtree with an explicit stack, parents before children and children
from left to right.
-/

namespace Advisor

/-- What is known of a node apart from its children. -/
structure NodeLabel where
  kind : String
  startByte : Nat
  endByte : Nat
  row : Nat
  byteColumn : Nat
  /-- The parser put it in where the text lacks it. -/
  missing : Bool
  /-- The parser met an error in it or below it. -/
  hasError : Bool
  deriving DecidableEq, Inhabited

/-- A parse tree. -/
inductive SyntaxTree where
  | node (label : NodeLabel) (children : List SyntaxTree)
  deriving Inhabited

namespace SyntaxTree

def label : SyntaxTree → NodeLabel
  | node l _ => l

def children : SyntaxTree → List SyntaxTree
  | node _ cs => cs

mutual

/-- How many nodes a tree has. -/
def size : SyntaxTree → Nat
  | node _ cs => 1 + sizes cs

/-- How many nodes the trees of a list have together. -/
def sizes : List SyntaxTree → Nat
  | [] => 0
  | t :: ts => t.size + sizes ts

end

theorem size_eq (t : SyntaxTree) : t.size = 1 + sizes t.children := by
  cases t; rfl

/-- Whether the parser objects to this very node. -/
def isError (t : SyntaxTree) : Bool := t.label.kind == "ERROR" || t.label.missing

end SyntaxTree

/-- A node of a tree, with the kinds of the nodes around it, the nearest first. -/
structure Spot where
  tree : SyntaxTree
  around : List String
  deriving Inhabited

namespace Spot

/-- The whole of a tree. -/
def root (t : SyntaxTree) : Spot := ⟨t, []⟩

@[inline] def label (s : Spot) : NodeLabel := s.tree.label
@[inline] def kind (s : Spot) : String := s.tree.label.kind
@[inline] def isError (s : Spot) : Bool := s.tree.isError

/-- The children of a node in their places. -/
def children (s : Spot) : List Spot := s.tree.children.map (⟨·, s.kind :: s.around⟩)

/-- The number of nodes below and at some places. -/
def totalSize : List Spot → Nat
  | [] => 0
  | s :: rest => s.tree.size + totalSize rest

@[simp] theorem totalSize_append (a b : List Spot) :
    totalSize (a ++ b) = totalSize a + totalSize b := by
  induction a with
  | nil => simp [totalSize]
  | cons s rest ih => simp [totalSize, ih]; omega

theorem totalSize_map (ts : List SyntaxTree) (around : List String) :
    totalSize (ts.map (⟨·, around⟩)) = SyntaxTree.sizes ts := by
  induction ts with
  | nil => rfl
  | cons t rest ih => simp [totalSize, SyntaxTree.sizes, ih]

theorem totalSize_children (s : Spot) : totalSize s.children + 1 = s.tree.size := by
  rw [children, totalSize_map, SyntaxTree.size_eq]; omega

theorem totalSize_reverse (ss : List Spot) : totalSize ss.reverse = totalSize ss := by
  induction ss with
  | nil => rfl
  | cons s rest ih => simp [totalSize, ih]; omega

theorem totalSize_filter_le (p : Spot → Bool) (ss : List Spot) :
    totalSize (ss.filter p) ≤ totalSize ss := by
  induction ss with
  | nil => simp
  | cons s rest ih =>
    by_cases h : p s = true <;> simp [h, totalSize] <;> omega

/-- The nodes at and below the places on a stack, each before its children. -/
def listFrom (stack found : List Spot) : List Spot :=
  match stack with
  | [] => found.reverse
  | s :: rest => listFrom (s.children ++ rest) (s :: found)
termination_by totalSize stack
decreasing_by
  have := totalSize_children s
  simp only [totalSize_append, totalSize]; omega

/-- The nodes of a subtree, each before its children. -/
def preorder (s : Spot) : List Spot := listFrom [s] []

/-- The nodes without children, from left to right. -/
def leaves (s : Spot) : List Spot := s.preorder.filter fun d => d.tree.children.isEmpty

/-- The first node below the places on a stack that has a property. -/
def findFrom (p : Spot → Bool) (stack : List Spot) : Option Spot :=
  match stack with
  | [] => none
  | s :: rest => if p s then some s else findFrom p (s.children ++ rest)
termination_by totalSize stack
decreasing_by
  have := totalSize_children s
  simp only [totalSize_append, totalSize]; omega

/-- The first node of a subtree, in the order of `preorder`, that has a property. -/
def find? (p : Spot → Bool) (s : Spot) : Option Spot := findFrom p [s]

/-- The earlier of two error nodes. On a tie the one that was found first stays. -/
def earlier (best : Option Spot) (s : Spot) : Option Spot :=
  match best with
  | some b => if s.label.startByte < b.label.startByte then some s else some b
  | none => some s

/-- The earliest error node below the places on a stack. It looks only into nodes that are marked as
holding an error, and not into error nodes. -/
def firstErrorFrom (stack : List Spot) (best : Option Spot) : Option Spot :=
  match stack with
  | [] => best
  | s :: rest =>
    if s.isError then firstErrorFrom rest (earlier best s)
    else firstErrorFrom ((s.children.filter (·.label.hasError)).reverse ++ rest) best
termination_by totalSize stack
decreasing_by
  · have := SyntaxTree.size_eq s.tree
    simp only [totalSize]; omega
  · have := totalSize_children s
    have := totalSize_filter_le (·.label.hasError) s.children
    simp only [totalSize_append, totalSize_reverse, totalSize]; omega

/-- The earliest error node of a subtree; of those that start at one place, the last. -/
def firstError (s : Spot) : Option Spot := firstErrorFrom [s] none

end Spot

end Advisor
