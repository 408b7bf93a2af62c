import Advisor.Grammar.Table
import Advisor.Parse.Text

/-!
# Subtrees

What the parser builds: leaves are tokens, nodes are rules with their children, and pieces that fit
no rule are wrapped in error nodes. Each subtree carries the sums that the search for the cheapest
reading compares: the cost of its errors and its dynamic precedence.
-/

namespace Advisor.Parse

open Advisor.Grammar

/-- The symbol of an error node. -/
def errorSymbol : Nat := 65535

/-- The symbol of a run of skipped tokens that is still growing. -/
def skippedSymbol : Nat := 65534

/-! ## Costs of errors -/

def costPerRecovery : Nat := 500
def costPerMissing : Nat := 110
def costPerSkippedTree : Nat := 100
def costPerSkippedByte : Nat := 1
def costPerSkippedRow : Nat := 30

/-- The sums over a subtree. -/
structure SubtreeInfo where
  symbol : Nat
  /-- What was skipped in front of it. -/
  padding : Span
  size : Span
  errorCost : Nat
  dynamic : Int
  /-- How many children show, those of hidden children included. -/
  shownChildren : Nat
  shownDescendants : Nat
  /-- Number of the shape under which the children show. -/
  shape : Nat
  extra : Bool
  missing : Bool
  keyword : Bool
  /-- How many subtrees it consists of. -/
  nodes : Nat
  deriving Inhabited

/-- A tree under construction. -/
inductive Subtree where
  | mk (info : SubtreeInfo) (children : Array Subtree)
  deriving Inhabited

namespace Subtree

@[inline] def info : Subtree → SubtreeInfo
  | mk i _ => i

@[inline] def children : Subtree → Array Subtree
  | mk _ cs => cs

@[inline] def symbol (t : Subtree) : Nat := t.info.symbol
@[inline] def extra (t : Subtree) : Bool := t.info.extra

/-- Padding and size together. -/
@[inline] def total (t : Subtree) : Span := t.info.padding.add t.info.size

@[inline] def isError (t : Subtree) : Bool := t.symbol == errorSymbol

/-- Whether a symbol shows in the tree. -/
@[inline] def symbolShown (tb : Table) (s : Nat) : Bool :=
  if s == errorSymbol then true
  else if s == skippedSymbol then false
  else (tb.symbols.getD s default).shown

@[inline] def shown (tb : Table) (t : Subtree) : Bool := symbolShown tb t.symbol

/-- The cost of the errors in a subtree. -/
@[inline] def errorCost (t : Subtree) : Nat :=
  if t.info.missing then costPerMissing + costPerRecovery else t.info.errorCost

/-- A token. -/
def leaf (symbol : Nat) (padding size : Span) (extra keyword : Bool) : Subtree :=
  mk { symbol, padding, size, errorCost := 0, dynamic := 0, shownChildren := 0, shownDescendants := 0
       shape := 0, extra, missing := false, keyword, nodes := 1 } #[]

/-- A token that the text lacks. -/
def missing (symbol : Nat) : Subtree :=
  match leaf symbol .zero .zero false false with
  | mk i cs => mk { i with missing := true } cs

def setExtra (t : Subtree) (extra : Bool) : Subtree :=
  match t with
  | mk i cs => mk { i with extra } cs

def setSymbol (t : Subtree) (symbol : Nat) : Subtree :=
  match t with
  | mk i cs => mk { i with symbol } cs

def addDynamic (t : Subtree) (d : Int) : Subtree :=
  match t with
  | mk i cs => mk { i with dynamic := i.dynamic + d } cs

/-- Whether the child at place `i` among those that are not extra gets a name from its parent. -/
@[inline] def aliasAt (tb : Table) (shape i : Nat) : Option SymbolInfo :=
  (tb.shapes.getD shape #[]).getD i none

/-- The part of an error node's cost that one child makes: each skipped tree that shows is paid for. -/
def skippedCost (tb : Table) (child : Subtree) : Nat :=
  if child.extra || (child.isError && child.children.isEmpty) then 0
  else if child.shown tb then costPerSkippedTree
  else if child.children.isEmpty then 0
  else costPerSkippedTree * child.info.shownChildren

/-- A node over the given children. -/
def node (tb : Table) (symbol : Nat) (children : Array Subtree) (shape : Nat) : Subtree := Id.run do
  let isErrorNode := symbol == errorSymbol || symbol == skippedSymbol
  let mut padding := Span.zero
  let mut size := Span.zero
  let mut errorCost := 0
  let mut dynamic : Int := 0
  let mut shownChildren := 0
  let mut shownDescendants := 0
  let mut nodes := 1
  let mut place := 0
  let mut first := true
  for child in children do
    if first then
      padding := child.info.padding
      size := child.info.size
      first := false
    else
      size := size.add child.total
    if child.symbol != skippedSymbol then errorCost := errorCost + child.errorCost
    if isErrorNode then errorCost := errorCost + skippedCost tb child
    dynamic := dynamic + child.info.dynamic
    shownDescendants := shownDescendants + child.info.shownDescendants
    nodes := nodes + child.info.nodes
    let renamed := !child.extra && child.symbol != tb.ending && (aliasAt tb shape place).isSome
    if renamed || child.shown tb then
      shownDescendants := shownDescendants + 1
      shownChildren := shownChildren + 1
    else if !child.children.isEmpty then
      shownChildren := shownChildren + child.info.shownChildren
    if !child.extra then place := place + 1
  if isErrorNode then
    errorCost := errorCost + costPerRecovery + costPerSkippedByte * size.bytes + costPerSkippedRow * size.rows
  return mk { symbol, padding, size, errorCost, dynamic, shownChildren, shownDescendants, shape
              extra := false, missing := false, keyword := false, nodes } children

/-- An error node over the given children. -/
def errorNode (tb : Table) (children : Array Subtree) (extra : Bool) : Subtree :=
  (node tb errorSymbol children 0).setExtra extra

/-- Splits off the extra subtrees at the end. -/
def splitTrailing (trees : Array Subtree) : Array Subtree × Array Subtree := Id.run do
  let mut n := trees.size
  for _ in [0:trees.size] do
    match trees[n - 1]? with
    | some t => if n > 0 && t.extra then n := n - 1 else break
    | none => break
  return (trees.extract 0 n, trees.extract n trees.size)

/-- Compares two trees without errors: by symbol, then by number of children, then child by child. -/
def compare (tb : Table) (a b : Subtree) : Ordering := Id.run do
  let rank (s : Nat) : Nat := tb.ranks.getD s s
  let mut stack : List (Subtree × Subtree) := [(a, b)]
  for _ in [0:a.info.nodes + b.info.nodes] do
    match stack with
    | [] => break
    | (l, r) :: rest =>
      let bySymbol := Ord.compare (rank l.symbol) (rank r.symbol)
      if bySymbol != .eq then return bySymbol
      let byCount := Ord.compare l.children.size r.children.size
      if byCount != .eq then return byCount
      stack := (l.children.zip r.children).toList ++ rest
  return .eq

/-- Whether the second of two readings of one piece of text is better: fewer errors, then higher
dynamic precedence, then, if there are no errors, the earlier symbols. -/
def preferSecond (tb : Table) (left right : Subtree) : Bool :=
  if right.errorCost < left.errorCost then true
  else if left.errorCost < right.errorCost then false
  else if left.info.dynamic < right.info.dynamic then true
  else if right.info.dynamic < left.info.dynamic then false
  else if left.errorCost > 0 then true
  else compare tb left right == .gt

end Subtree

end Advisor.Parse
