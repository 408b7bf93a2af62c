import Advisor.Parse.Subtree

/-!
# The stack of readings

Several readings of one text are followed at once. Their stacks share what they have in common: a
node may be linked to more than one earlier node, and each link carries the subtree between the two.
A `Head` is one reading. Readings are numbered; a new one is added at the end, and removing one moves
the later ones up.
-/

namespace Advisor.Parse

open Advisor.Grammar

/-- A link to an earlier node over a subtree. A link without a subtree marks an error. -/
structure Link where
  node : Nat
  subtree : Option Subtree
  deriving Inhabited

/-- The dynamic precedence of a link's subtree. -/
def Link.dynamic (l : Link) : Int :=
  match l.subtree with
  | some t => t.info.dynamic
  | none => 0

/-- A place of the stack: the state there, what was read up to it, and the sums over the best way back
to the bottom. -/
structure StackNode where
  state : Nat
  position : Span
  links : Array Link
  errorCost : Nat
  nodeCount : Nat
  dynamic : Int
  deriving Inhabited

/-- A state on the stack below a head, and how many subtrees lie above it. -/
structure SummaryEntry where
  position : Span
  depth : Nat
  state : Nat
  deriving Inhabited

/-- A reading goes on, waits for the others after an error, or has ended. -/
inductive Status where
  | active
  | paused (lookahead : Subtree)
  | halted

instance : Inhabited Status := ⟨.halted⟩

/-- One reading. -/
structure Head where
  node : Nat
  status : Status
  nodeCountAtError : Nat
  summary : Option (Array SummaryEntry)
  deriving Inhabited

/-- All readings with the nodes they share. -/
structure Stack where
  nodes : Array StackNode
  heads : Array Head
  deriving Inhabited

/-- Subtrees taken from a reading, and the reading that is left without them. -/
structure Slice where
  subtrees : Array Subtree
  version : Nat
  deriving Inhabited

namespace Stack

/-- How many links a node can have. -/
def maxLinks : Nat := 8

/-- How many ways back are followed at once. -/
def maxPaths : Nat := 64

@[inline] def nodeAt (s : Stack) (n : Nat) : StackNode := s.nodes.getD n default
@[inline] def headAt (s : Stack) (v : Nat) : Head := s.heads.getD v default
@[inline] def top (s : Stack) (v : Nat) : StackNode := s.nodeAt (s.headAt v).node

/-- The number of readings. -/
@[inline] def count (s : Stack) : Nat := s.heads.size
@[inline] def state (s : Stack) (v : Nat) : Nat := (s.top v).state
@[inline] def position (s : Stack) (v : Nat) : Span := (s.top v).position
@[inline] def dynamic (s : Stack) (v : Nat) : Int := (s.top v).dynamic

def isActive (s : Stack) (v : Nat) : Bool :=
  match (s.headAt v).status with
  | .active => true
  | _ => false

def isPaused (s : Stack) (v : Nat) : Bool :=
  match (s.headAt v).status with
  | .paused _ => true
  | _ => false

def isHalted (s : Stack) (v : Nat) : Bool :=
  match (s.headAt v).status with
  | .halted => true
  | _ => false

/-- One reading, at the start state. -/
def initial : Stack :=
  { nodes := #[⟨1, .zero, #[], 0, 0, 0⟩]
    heads := #[⟨0, .active, 0, none⟩] }

/-- How much of a tree counts as progress since an error. -/
def progress (tb : Table) (t : Subtree) : Nat :=
  t.info.shownDescendants + (if t.shown tb then 1 else 0) + (if t.symbol == skippedSymbol then 1 else 0)

/-- The cost of a reading's errors, one that is waiting or has just begun to recover included. -/
def errorCost (s : Stack) (v : Nat) : Nat :=
  let node := s.top v
  let fresh := node.state == 0 && match node.links[0]? with
    | some l => l.subtree.isNone
    | none => true
  node.errorCost + (if s.isPaused v || fresh then costPerRecovery else 0)

@[inline] def modifyHead (s : Stack) (v : Nat) (f : Head → Head) : Stack :=
  { s with heads := s.heads.modify v f }

/-- A reading that was cut back below its last error counts its progress from where it stands. -/
def settle (s : Stack) (v : Nat) : Stack :=
  let n := (s.top v).nodeCount
  if n < (s.headAt v).nodeCountAtError then s.modifyHead v fun h => { h with nodeCountAtError := n } else s

/-- How many nodes a reading has added since its last error. -/
def nodeCountSinceError (s : Stack) (v : Nat) : Nat :=
  (s.top v).nodeCount - (s.headAt v).nodeCountAtError

/-- Puts a subtree (or the mark of an error) on a reading. -/
def push (tb : Table) (s : Stack) (v : Nat) (subtree : Option Subtree) (state : Nat) : Stack :=
  let head := s.headAt v
  let below := s.nodeAt head.node
  let node : StackNode := match subtree with
    | some t =>
      { state, position := below.position.add t.total, links := #[⟨head.node, subtree⟩]
        errorCost := below.errorCost + t.errorCost
        nodeCount := below.nodeCount + progress tb t
        dynamic := below.dynamic + t.info.dynamic }
    | none =>
      { state, position := below.position, links := #[⟨head.node, none⟩]
        errorCost := below.errorCost, nodeCount := below.nodeCount, dynamic := below.dynamic }
  let id := s.nodes.size
  let s := { s with nodes := s.nodes.push node }
  s.modifyHead v fun h => { h with
    node := id
    nodeCountAtError := if subtree.isNone then node.nodeCount else h.nodeCountAtError }

def halt (s : Stack) (v : Nat) : Stack := s.modifyHead v fun h => { h with status := .halted }

def pause (s : Stack) (v : Nat) (lookahead : Subtree) : Stack :=
  let n := (s.top v).nodeCount
  s.modifyHead v fun h => { h with status := .paused lookahead, nodeCountAtError := n }

/-- Lets a waiting reading go on. -/
def resume (s : Stack) (v : Nat) : Stack := s.modifyHead v fun h => { h with status := .active }

def remove (s : Stack) (v : Nat) : Stack := { s with heads := s.heads.eraseIdxIfInBounds v }

def swap (s : Stack) (v w : Nat) : Stack := { s with heads := s.heads.swapIfInBounds v w }

/-- Puts the later reading `v` in the place of `w`, which hands on its summary. -/
def renumber (s : Stack) (v w : Nat) : Stack :=
  if v == w then s
  else
    let source := s.headAt v
    let target := s.headAt w
    let moved := { source with summary := source.summary <|> target.summary }
    { s with heads := (s.heads.set! w moved).eraseIdxIfInBounds v }

/-- Adds a copy of a reading; the copy has no summary. -/
def copy (s : Stack) (v : Nat) : Stack × Nat :=
  ({ s with heads := s.heads.push { s.headAt v with summary := none } }, s.heads.size)

/-- Adds a reading that stands at the given node. -/
def addVersion (s : Stack) (origin node : Nat) : Stack × Nat :=
  ({ s with heads := s.heads.push ⟨node, .active, (s.headAt origin).nodeCountAtError, none⟩ }, s.heads.size)

/-! ## Merging -/

/-- Whether two links carry subtrees that need not be told apart. -/
def equivalent (a b : Option Subtree) : Bool :=
  match a, b with
  | none, none => true
  | some x, some y =>
    x.symbol == y.symbol &&
      ((x.errorCost > 0 && y.errorCost > 0) ||
        (x.info.padding.bytes == y.info.padding.bytes && x.info.size.bytes == y.info.size.bytes
          && x.children.size == y.children.size && x.extra == y.extra))
  | _, _ => false

/-- Adds a link that repeats none of the node's, unless the node has too many. -/
def appendLink (tb : Table) (s : Stack) (n : Nat) (link : Link) : Stack :=
  if maxLinks ≤ (s.nodeAt n).links.size then s
  else
    let below := s.nodeAt link.node
    let count := below.nodeCount + match link.subtree with
      | some t => progress tb t
      | none => 0
    { s with nodes := s.nodes.modify n fun m => { m with
      links := m.links.push link
      nodeCount := max m.nodeCount count
      dynamic := max m.dynamic (below.dynamic + link.dynamic) } }

/-- Puts the subtree of a link in the place of an equivalent one, if it has the higher precedence. -/
def preferLink (s : Stack) (n i : Nat) (old link : Link) : Stack :=
  if old.dynamic < link.dynamic then
    let below := (s.nodeAt link.node).dynamic
    { s with nodes := s.nodes.modify n fun m => { m with
      links := m.links.set! i { old with subtree := link.subtree }
      dynamic := below + link.dynamic } }
  else s

/-- Merges a link with an equivalent one to another node: `add` adds the links of its node to those of
the other. -/
def joinLinks (s : Stack) (add : Stack → Nat → Link → Stack) (n : Nat) (old link : Link) : Stack :=
  let b := s.nodeAt link.node
  let s := b.links.foldl (fun s l => add s old.node l) s
  { s with nodes := s.nodes.modify n fun m => { m with dynamic := max m.dynamic (b.dynamic + link.dynamic) } }

/-- Whether two nodes stand for the same state at the same place with the same errors. -/
def alike (a b : StackNode) : Bool :=
  a.state == b.state && a.position.bytes == b.position.bytes && a.errorCost == b.errorCost

/-- Looks among the links of a node for one that another repeats, and merges the two. -/
def mergeLink? (add : Stack → Nat → Link → Stack) (s : Stack) (n : Nat) (link : Link) :
    List (Link × Nat) → Option Stack
  | [] => none
  | (old, i) :: rest =>
    if equivalent old.subtree link.subtree then
      if old.node == link.node then some (s.preferLink n i old link)
      else if alike (s.nodeAt old.node) (s.nodeAt link.node) then some (s.joinLinks add n old link)
      else mergeLink? add s n link rest
    else mergeLink? add s n link rest

/-- Adds a link to a node. A link that repeats one of the node's is merged with it, the nodes below
included; `fuel` bounds how far down. -/
def addLink (tb : Table) : Nat → Stack → Nat → Link → Stack
  | 0, s, _, _ => s
  | fuel + 1, s, n, link =>
    if link.node == n then s
    else match mergeLink? (addLink tb fuel) s n link (s.nodeAt n).links.toList.zipIdx with
      | some s => s
      | none => s.appendLink tb n link

/-- Whether two readings have come to the same state at the same place with the same errors. -/
def canMerge (s : Stack) (v w : Nat) : Bool :=
  s.isActive v && s.isActive w &&
    alike (s.top v) (s.top w)

/-- Merges reading `w` into `v`, if they can be merged. -/
def merge (tb : Table) (s : Stack) (v w : Nat) : Stack × Bool :=
  if s.canMerge v w then
    let n := (s.headAt v).node
    let links := (s.top w).links
    let s := links.foldl (fun s l => addLink tb (s.nodes.size + 1) s n l) s
    let s := if s.state v == 0 then
        let c := (s.top v).nodeCount
        s.modifyHead v fun h => { h with nodeCountAtError := c }
      else s
    (s.remove w, true)
  else (s, false)

/-! ## Ways back -/

/-- A way back through the stack: the node reached, the subtrees passed (the last one first) and how
many of them count. -/
structure Path where
  node : Nat
  subtrees : Array Subtree
  count : Nat
  deriving Inhabited

/-- Moves a way back over a link. An extra subtree does not count. -/
def Path.cross (p : Path) (l : Link) : Path :=
  match l.subtree with
  | some t => ⟨l.node, p.subtrees.push t, if t.extra then p.count else p.count + 1⟩
  | none => ⟨l.node, p.subtrees, p.count + 1⟩

/-- Adds a finished way back to the slices: one that ends where an earlier one did belongs to the same
new reading and stands right after it. -/
def addSlice (s : Stack) (slices : Array Slice) (origin : Nat) (p : Path) : Stack × Array Slice :=
  let subtrees := p.subtrees.reverse
  let rec find (i : Nat) : Option Nat :=
    match i with
    | 0 => none
    | i + 1 =>
      match slices[i]? with
      | some sl => if (s.headAt sl.version).node == p.node then some i else find i
      | none => find i
  match find slices.size with
  | some i =>
    let version := (slices.getD i default).version
    (s, slices.extract 0 (i + 1) ++ #[⟨subtrees, version⟩] ++ slices.extract (i + 1) slices.size)
  | none =>
    let (s, v) := s.addVersion origin p.node
    (s, slices.push ⟨subtrees, v⟩)

/-- One round over all ways back: those that are finished become slices, the others go on, branching
where a node has several links. -/
def popRound (finished : Stack → Path → Bool) (origin : Nat) (s : Stack) (slices : Array Slice)
    (paths : Array Path) : Stack × Array Slice × Array Path := Id.run do
  let mut s := s
  let mut slices := slices
  let mut current : Array Path := #[]
  let mut branched : Array Path := #[]
  let mut total := paths.size
  for p in paths do
    let node := s.nodeAt p.node
    if finished s p then
      let (s', slices') := addSlice s slices origin p
      s := s'
      slices := slices'
      total := total - 1
    else
      match node.links[0]? with
      | none => total := total - 1
      | some first =>
        for j in [1:node.links.size] do
          if total < maxPaths then
            branched := branched.push (p.cross (node.links.getD j default))
            total := total + 1
        current := current.push (p.cross first)
  return (s, slices, current ++ branched)

/-- Follows all ways back until they are finished. -/
def popWhile (finished : Stack → Path → Bool) (origin : Nat) :
    Nat → Stack → Array Slice → Array Path → Stack × Array Slice
  | 0, s, slices, _ => (s, slices)
  | fuel + 1, s, slices, paths =>
    if paths.isEmpty then (s, slices)
    else
      let (s, slices, paths) := popRound finished origin s slices paths
      popWhile finished origin fuel s slices paths

/-- Takes `n` subtrees, extras between them included, from a reading; each way back gives a slice. -/
def popCount (s : Stack) (v n : Nat) : Stack × Array Slice :=
  popWhile (fun _ p => p.count == n) v (s.nodes.size + 1) s #[] #[⟨(s.headAt v).node, #[], 0⟩]

/-- Takes all subtrees. -/
def popAll (s : Stack) (v : Nat) : Stack × Array Slice :=
  popWhile (fun s p => (s.nodeAt p.node).links.isEmpty) v (s.nodes.size + 1) s #[]
    #[⟨(s.headAt v).node, #[], 0⟩]

/-- Takes the error node on top of a reading, if there is one. -/
def popError (s : Stack) (v : Nat) : Stack × Option Subtree :=
  let isErrorLink (l : Link) : Bool := match l.subtree with
    | some t => t.isError
    | none => false
  match (s.top v).links.find? isErrorLink with
  | some l => (s.modifyHead v fun h => { h with node := l.node, status := .active }, l.subtree)
  | none => (s, none)

/-- Notes the states below a head, at most `maxDepth` subtrees down. -/
def recordSummary (s : Stack) (v maxDepth : Nat) : Stack := Id.run do
  let mut summary : Array SummaryEntry := #[]
  let mut paths : Array (Nat × Nat) := #[((s.headAt v).node, 0)]
  for _ in [0:s.nodes.size + 1] do
    if paths.isEmpty then break
    let mut current : Array (Nat × Nat) := #[]
    let mut branched : Array (Nat × Nat) := #[]
    let mut total := paths.size
    for (n, depth) in paths do
      let node := s.nodeAt n
      if depth > maxDepth then
        total := total - 1
        continue
      -- entries are in order of depth, so only the last ones can repeat this one
      let known := Id.run do
        let mut i := summary.size
        for _ in [0:summary.size] do
          let e := summary.getD (i - 1) default
          if e.depth < depth then return false
          if e.depth == depth && e.state == node.state then return true
          i := i - 1
        return false
      if !known then summary := summary.push ⟨node.position, depth, node.state⟩
      match node.links[0]? with
      | none => total := total - 1
      | some first =>
        let after (l : Link) : Nat × Nat :=
          (l.node, match l.subtree with
            | some t => if t.extra then depth else depth + 1
            | none => depth + 1)
        for j in [1:node.links.size] do
          if total < maxPaths then
            branched := branched.push (after (node.links.getD j default))
            total := total + 1
        current := current.push (after first)
    paths := current ++ branched
  return s.modifyHead v fun h => { h with summary := some summary }

/-- Whether a reading has read anything since its last error. -/
def hasAdvanced (s : Stack) (v : Nat) : Bool :=
  let head := s.headAt v
  if (s.top v).errorCost == 0 then true
  else
    let rec go (fuel n : Nat) : Bool :=
      match fuel with
      | 0 => false
      | fuel + 1 =>
        let node := s.nodeAt n
        match node.links[0]? with
        | none => false
        | some l =>
          match l.subtree with
          | none => false
          | some t =>
            if t.total.bytes > 0 then true
            else if node.nodeCount > head.nodeCountAtError && t.errorCost == 0 then go fuel l.node
            else false
    go (s.nodes.size + 1) head.node

end Stack

end Advisor.Parse
