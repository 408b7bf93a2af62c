import Advisor.Parse.Lexer
import Advisor.Parse.Stack

/-!
# The parser

Follows every reading of a text that the table allows, and recovers where none is left: it tries a
missing token, goes back to an earlier state in which the token at hand makes sense, and skips
tokens. Each recovery has a cost, dear readings are dropped, and the cheapest tree is the answer.
-/

namespace Advisor.Parse

open Advisor.Grammar

/-- The readings of a text and the best finished tree. -/
structure Parser where
  stack : Stack
  finished : Option Subtree
  accepted : Nat
  deriving Inhabited

/-- How two readings compare: one is so much better that the other is dropped (`take`), or just better
(`prefer`), or neither. -/
inductive Verdict where
  | takeLeft
  | preferLeft
  | none
  | preferRight
  | takeRight

/-- What the comparison of readings looks at. -/
structure Standing where
  cost : Nat
  nodeCount : Nat
  dynamic : Int
  inError : Bool

namespace Standing

/-- A difference of cost, weighed by the progress made, beyond which a reading is dropped. -/
def maxCostDifference : Nat := 18 * costPerSkippedTree

/-- Compares two readings. -/
def compare (a b : Standing) : Verdict :=
  if !a.inError && b.inError then
    if a.cost < b.cost then .takeLeft else .preferLeft
  else if a.inError && !b.inError then
    if b.cost < a.cost then .takeRight else .preferRight
  else if a.cost < b.cost then
    if (b.cost - a.cost) * (1 + a.nodeCount) > maxCostDifference then .takeLeft else .preferLeft
  else if b.cost < a.cost then
    if (a.cost - b.cost) * (1 + b.nodeCount) > maxCostDifference then .takeRight else .preferRight
  else if b.dynamic < a.dynamic then .preferLeft
  else if a.dynamic < b.dynamic then .preferRight
  else .none

end Standing

namespace Parser

/-- How many readings are kept. -/
def maxVersions : Nat := 6

/-- How many more may come up between two rounds. -/
def maxOverflow : Nat := 4

/-- How far down the stack a recovery looks. -/
def maxSummaryDepth : Nat := 16

/-- The standing of a reading. -/
def standing (s : Stack) (v : Nat) : Standing :=
  { cost := s.errorCost v + (if s.isPaused v then costPerSkippedTree else 0)
    nodeCount := s.nodeCountSinceError v
    dynamic := s.dynamic v
    inError := s.isPaused v || s.state v == 0 }

/-- Whether some other reading, or a finished tree, beats what reading `v` would cost. -/
def betterExists (p : Parser) (v : Nat) (inError : Bool) (cost : Nat) : Parser × Bool := Id.run do
  if let some t := p.finished then
    if t.errorCost ≤ cost then return (p, true)
  let mut s := p.stack.settle v
  let bytes := (s.position v).bytes
  let mine : Standing := { cost, inError, dynamic := s.dynamic v, nodeCount := s.nodeCountSinceError v }
  for i in [0:s.count] do
    if i == v || !s.isActive i || (s.position i).bytes < bytes then continue
    s := s.settle i
    match mine.compare (standing s i) with
    | .takeRight => return ({ p with stack := s }, true)
    | .preferRight => if s.canMerge i v then return ({ p with stack := s }, true)
    | _ => pure ()
  return ({ p with stack := s }, false)

/-- Chooses between a node and a second way to fill it; `none` keeps the node. -/
def chooseChildren (tb : Table) (parent : Subtree) (children : Array Subtree) : Bool :=
  Subtree.preferSecond tb parent (Subtree.node tb parent.symbol children 0)

/-- How many readings have ended. -/
def haltedCount (s : Stack) : Nat :=
  (List.range s.count).foldl (fun n v => if s.isHalted v then n + 1 else n) 0

/-- Replaces the last `count` subtrees of a reading by a node over them. Each way back makes a new
reading; the first of them is returned. -/
def reduce (tb : Table) (s : Stack) (v : Nat) (r : Reduction) : Stack × Option Nat := Id.run do
  let initialCount := s.count
  let (s', slices) := s.popCount v r.count
  let mut s := s'
  let halted := haltedCount s
  let mut removed := 0
  let mut i := 0
  for _ in [0:slices.size] do
    if i ≥ slices.size then break
    let slice := slices.getD i default
    let version := slice.version - removed
    if version > maxVersions + maxOverflow + halted then
      s := s.remove version
      removed := removed + 1
      i := i + 1
      for _ in [0:slices.size] do
        match slices[i]? with
        | some next => if next.version == slice.version then i := i + 1 else break
        | none => break
      continue
    let (children, trailing) := Subtree.splitTrailing slice.subtrees
    let mut parent := Subtree.node tb r.symbol children r.shape
    let mut extras := trailing
    i := i + 1
    -- further ways back to the same node are other readings of the same text
    for _ in [0:slices.size] do
      match slices[i]? with
      | some next =>
        if next.version == slice.version then
          i := i + 1
          let (children, trailing) := Subtree.splitTrailing next.subtrees
          if chooseChildren tb parent children then
            parent := Subtree.node tb r.symbol children r.shape
            extras := trailing
        else break
      | none => break
    let state := s.state version
    let nextState := tb.next state r.symbol
    s := s.push tb version (some (parent.addDynamic r.dynamic)) nextState
    for e in extras do
      s := s.push tb version (some e) nextState
    for j in [0:version] do
      if j == v then continue
      let (s', merged) := s.merge tb j version
      s := s'
      if merged then
        removed := removed + 1
        break
  return (s, if s.count > initialCount then some initialCount else none)

/-- Ends a reading with the whole text read, and keeps its tree if it is the best. -/
def accept (tb : Table) (p : Parser) (v : Nat) (lookahead : Subtree) : Parser := Id.run do
  let s := p.stack.push tb v (some lookahead) 1
  let (s, slices) := s.popAll v
  let mut finished := p.finished
  let mut accepted := p.accepted
  for slice in slices do
    let trees := slice.subtrees
    -- the last subtree that is not extra is the start rule's node: its children join the extras
    let mut root : Option Subtree := none
    for k in [0:trees.size] do
      let j := trees.size - 1 - k
      let t := trees.getD j default
      if !t.extra then
        let all := trees.extract 0 j ++ t.children ++ trees.extract (j + 1) trees.size
        root := some (Subtree.node tb t.symbol all t.info.shape)
        break
    if let some tree := root then
      accepted := accepted + 1
      match finished with
      | some old => if Subtree.preferSecond tb old tree then finished := some tree
      | none => finished := some tree
  let s := match slices[0]? with
    | some slice => s.remove slice.version
    | none => s
  return { stack := s.halt v, finished, accepted }

/-! ## Recovery -/

/-- Performs every reduction that is possible on `lookahead`, or on any token at all, starting with
reading `first`. Tells whether some reading can then shift. -/
def reduceAll (tb : Table) (s : Stack) (first : Nat) (lookahead : Option Nat) : Stack × Bool := Id.run do
  let initialCount := s.count
  let mut s := s
  let mut canShift := false
  let mut version := first
  let tokens := match lookahead with
    | some t => #[t]
    | none => tb.tokenOrder
  for i in [0:100000] do
    let count := s.count
    if version ≥ count then break
    let mut merged := false
    for j in [initialCount:version] do
      let (s', m) := s.merge tb j version
      s := s'
      if m then
        merged := true
        break
    if merged then continue
    let state := s.state version
    let mut hasShift := false
    let mut reductions : Array Reduction := #[]
    for t in tokens do
      let c := tb.cell state t
      for r in c.reductions do
        if r.count > 0 && !reductions.any (fun q => q.symbol == r.symbol && q.count == r.count) then
          reductions := reductions.push r
      if c.recover || (c.shift.isSome && !c.repetition) then hasShift := true
    let mut reduced : Option Nat := none
    for r in reductions do
      let (s', n) := reduce tb s version r
      s := s'
      reduced := n
    if hasShift then canShift := true
    else
      match reduced with
      | some n =>
        if i < maxVersions then
          s := s.renumber n version
          continue
        else if lookahead.isSome then s := s.remove version
      | none => if lookahead.isSome then s := s.remove version
    if version == first then version := count else version := version + 1
  return (s, canShift)

/-- Takes a reading back to an earlier state, `depth` subtrees down, and wraps what is taken off in an
error node. -/
def recoverTo (tb : Table) (s : Stack) (v depth goal : Nat) : Stack × Bool := Id.run do
  let (s', slices) := s.popCount v depth
  let mut s := s'
  let mut previous : Option Nat := none
  for slice in slices do
    if previous == some slice.version then continue
    if s.state slice.version != goal then
      s := s.halt slice.version
      continue
    let (s', error) := s.popError slice.version
    s := s'
    let before := match error with
      | some e => e.children
      | none => #[]
    let (trees, trailing) := Subtree.splitTrailing (before ++ slice.subtrees)
    if !trees.isEmpty then
      s := s.push tb slice.version (some (Subtree.errorNode tb trees true)) goal
    for t in trailing do
      s := s.push tb slice.version (some t) goal
    previous := some slice.version
  return (s, previous.isSome)

/-- Recovers with the token at hand: back to a state in which it makes sense, and, as another reading,
by skipping it. -/
def recover (tb : Table) (p : Parser) (v : Nat) (lookahead : Subtree) : Parser := Id.run do
  let mut p := { p with stack := p.stack.settle v }
  let mut recovered := false
  let previousCount := p.stack.count
  let position := p.stack.position v
  let nodesSinceError := p.stack.nodeCountSinceError v
  let cost := p.stack.errorCost v
  if let some summary := (p.stack.headAt v).summary then
    if !lookahead.isError then
      for entry in summary do
        if entry.state == 0 || entry.position.bytes == position.bytes then continue
        let depth := if nodesSinceError > 0 then entry.depth + 1 else entry.depth
        let s := p.stack
        let redundant := (List.range previousCount).any fun j =>
          s.state j == entry.state && (s.position j).bytes == position.bytes
        if redundant then continue
        let newCost := cost + costPerSkippedTree
          + (position.bytes - entry.position.bytes) * costPerSkippedByte
          + (position.rows - entry.position.rows) * costPerSkippedRow
        let (p', better) := betterExists p v false newCost
        p := p'
        if better then break
        if tb.acts entry.state lookahead.symbol then
          let (s, done) := recoverTo tb p.stack v depth entry.state
          p := { p with stack := s }
          if done then
            recovered := true
            break
  -- readings made and given up on the way
  let mut i := previousCount
  for _ in [previousCount:p.stack.count] do
    if i ≥ p.stack.count then break
    if p.stack.isActive i then i := i + 1 else p := { p with stack := p.stack.remove i }
  if lookahead.symbol == tb.ending then
    let parent := Subtree.errorNode tb #[] false
    p := { p with stack := p.stack.push tb v (some parent) 1 }
    return accept tb p v lookahead
  if recovered && p.stack.count > maxVersions then
    return { p with stack := p.stack.halt v }
  let newCost := cost + costPerSkippedTree + lookahead.total.bytes * costPerSkippedByte
    + lookahead.total.rows * costPerSkippedRow
  let (p', better) := betterExists p v false newCost
  p := p'
  if better then return { p with stack := p.stack.halt v }
  let skipped := if (tb.cell 1 lookahead.symbol).extra then lookahead.setExtra true else lookahead
  let mut run := Subtree.node tb skippedSymbol #[skipped] 0
  let mut s := p.stack
  if nodesSinceError > 0 then
    let (s', slices) := s.popCount v 1
    s := s'
    match slices[0]? with
    | some slice =>
      if slices.size > 1 then
        for _ in [0:s.count] do
          if s.count > slice.version + 1 then s := s.remove (slice.version + 1) else break
      s := s.renumber slice.version v
      run := Subtree.node tb skippedSymbol (slice.subtrees.push run) 0
    | none => pure ()
  return { p with stack := s.push tb v (some run) 0 }

/-- Handles a token on which a reading has no action: missing tokens are tried, the reading and all
its possible reductions enter the error state, and the recovery begins. -/
def handleError (tb : Table) (p : Parser) (v : Nat) (lookahead : Subtree) : Parser := Id.run do
  let previousCount := p.stack.count
  let (s', _) := reduceAll tb p.stack v none
  let mut s := s'
  let versionCount := s.count
  let mut inserted := false
  let mut w := v
  for _ in [0:versionCount + 1] do
    if w ≥ versionCount then break
    if !inserted then
      let state := s.state w
      for token in tb.tokenOrder do
        let after := tb.next state token
        if after == 0 || after == state then continue
        if tb.reduces after lookahead.symbol then
          let (s', copy) := s.copy w
          s := s'.push tb copy (some (Subtree.missing token)) after
          -- at the end of the text any token may be thought of as next
          let next := if lookahead.symbol == tb.ending then none else some lookahead.symbol
          let (s', ok) := reduceAll tb s copy next
          s := s'
          if ok then
            inserted := true
            break
    s := s.push tb w none 0
    w := if w == v then previousCount else w + 1
  for _ in [previousCount:versionCount] do
    s := (s.merge tb v previousCount).1
  s := s.recordSummary v maxSummaryDepth
  return recover tb { p with stack := s } v lookahead

/-! ## Reading on -/

/-- Works off one token on reading `v`, as far as its actions go. Each round performs the reductions
of the state and goes on from the last of them. -/
def act (tb : Table) : Nat → Parser → Nat → Subtree → Parser
  | 0, p, v, _ => { p with stack := p.stack.halt v }
  | fuel + 1, p, v, lookahead => Id.run do
    let state := p.stack.state v
    let c := if lookahead.isError then Cell.none else tb.cell state lookahead.symbol
    let mut p := p
    let mut reduced := false
    let mut last : Option Nat := none
    for r in c.reductions do
      let (s, n) := reduce tb p.stack v r
      p := { p with stack := s }
      reduced := true
      if n.isSome then last := n
    if c.accept then return accept tb p v lookahead
    if c.recover then return recover tb p v lookahead
    if c.extra then
      return { p with stack := p.stack.push tb v (some (lookahead.setExtra true)) state }
    if let some target := c.shift then
      if !c.repetition then
        return { p with stack := p.stack.push tb v (some (lookahead.setExtra false)) target }
    if let some n := last then
      p := { p with stack := p.stack.renumber n v }
      return act tb fuel p v lookahead
    if reduced then return { p with stack := p.stack.halt v }
    if lookahead.info.keyword && lookahead.symbol != tb.word && !tb.isReserved state lookahead.symbol
        && tb.acts state tb.word then
      return act tb fuel p v (lookahead.setSymbol tb.word)
    if state == 0 then return recover tb p v lookahead
    return { p with stack := p.stack.pause v lookahead }

/-- Reads the next token of reading `v` and works it off. -/
def advance (lang : Language) (text : Text) (p : Parser) (v : Nat) : Parser :=
  let s := p.stack
  let lookahead := Lexer.next lang text (s.state v) (s.hasAdvanced v) (s.position v)
  act lang.table 100000 p v lookahead

/-- Drops the readings that are clearly worse than another, merges equal ones, sorts the rest by
promise, and lets the best waiting one recover if no other is left. Returns the least cost of a
reading that is not in an error. -/
def condense (tb : Table) (p : Parser) : Parser × Option Nat := Id.run do
  let mut s := p.stack
  let mut least : Option Nat := none
  let mut i := 0
  for _ in [0:100000] do
    if i ≥ s.count then break
    if s.isHalted i then
      s := s.remove i
      continue
    s := s.settle i
    let mine := standing s i
    if !mine.inError then
      least := some (match least with
        | some c => min c mine.cost
        | none => mine.cost)
    let mut j := 0
    let mut kept := true
    for _ in [0:100000] do
      if j ≥ i then break
      s := s.settle j
      match (standing s j).compare mine with
      | .takeLeft =>
        s := s.remove i
        kept := false
        break
      | .preferLeft | .none =>
        let (s', merged) := s.merge tb j i
        s := s'
        if merged then
          kept := false
          break
        j := j + 1
      | .preferRight =>
        let (s', merged) := s.merge tb j i
        s := s'
        if merged then
          kept := false
          break
        s := s.swap i j
        j := j + 1
      | .takeRight =>
        s := s.remove j
        i := i - 1
    if kept then i := i + 1
  for _ in [0:s.count] do
    if s.count > maxVersions then s := s.remove maxVersions else break
  let mut p := { p with stack := s }
  let mut unpaused := false
  let mut k := 0
  let mut n := p.stack.count
  for _ in [0:100000] do
    if k ≥ n then break
    match (p.stack.headAt k).status with
    | .paused lookahead =>
      if !unpaused && p.accepted < maxVersions then
        least := some (p.stack.errorCost k)
        p := { p with stack := p.stack.resume k }
        p := handleError tb p k lookahead
        unpaused := true
        k := k + 1
      else
        p := { p with stack := p.stack.remove k }
        n := n - 1
    | _ =>
      unpaused := true
      k := k + 1
  return (p, least)

/-- Advances reading `v` until it gets past the place reached so far, waits or ends. -/
def advanceWhile (lang : Language) (text : Text) (v : Nat) : Nat → Parser → Nat → Parser × Nat
  | 0, p, reached => (p, reached)
  | fuel + 1, p, reached =>
    if p.stack.isActive v then
      let p := advance lang text p v
      let bytes := (p.stack.position v).bytes
      if bytes > reached || (v > 0 && bytes == reached) then (p, bytes)
      else advanceWhile lang text v fuel p reached
    else (p, reached)

/-- One round: every reading advances, then they are sorted out. -/
def round (lang : Language) (text : Text) (p : Parser) (reached : Nat) : Parser × Nat × Bool := Id.run do
  let mut p := p
  let mut reached := reached
  let mut v := 0
  let mut count := p.stack.count
  for _ in [0:100000] do
    count := p.stack.count
    if v ≥ count then break
    let (p', reached') := advanceWhile lang text v (2 * text.size + 100) p reached
    p := p'
    reached := reached'
    v := v + 1
  let (p', least) := condense lang.table p
  p := p'
  let better := match p.finished, least with
    | some t, some c => t.errorCost < c
    | some _, none => true
    | none, _ => false
  return (p, reached, better || count == 0)

/-- Rounds until a tree is better than anything that could still come. -/
def rounds (lang : Language) (text : Text) : Nat → Parser → Nat → Parser
  | 0, p, _ => p
  | fuel + 1, p, reached =>
    let (p, reached, done) := round lang text p reached
    if done then p else rounds lang text fuel p reached

/-- Parses a text. -/
def parse (lang : Language) (text : Text) : Option Subtree :=
  (rounds lang text (4 * text.size + 100) ⟨.initial, none, 0⟩ 0).finished

end Parser

end Advisor.Parse
