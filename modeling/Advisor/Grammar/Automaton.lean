import Advisor.Grammar.Item
import Std.Data.HashMap

/-!
# The automaton

The states a parser of the language can be in, each a set of items with lookahead tokens, and what
each state does on each token. Where a state could both shift and reduce, precedence and
associativity decide; what they leave undecided stays in the table, and the parser follows every
reading. State 0 is the error state and has no actions of its own; state 1 is the start.
-/

namespace Advisor.Grammar

/-- An item of a state, the tokens that may follow it, and the context of a word among them. -/
structure Entry where
  item : Nat
  lookaheads : Bits
  context : Nat
  deriving BEq, Hashable, Inhabited

/-- What a state does on a token: perform reductions, then shift. A repetition is a shift that merely
continues a repeated rule, and an extra one leaves the state as it is. -/
structure Cell where
  reductions : List Reduction
  shift : Option Nat
  repetition : Bool
  extra : Bool
  accept : Bool
  /-- In the error state every token is part of the recovery. -/
  recover : Bool
  deriving BEq, Inhabited

namespace Cell

/-- No action. -/
def none : Cell := ⟨[], .none, false, false, false, false⟩

/-- Whether there is any action. -/
def isSome (c : Cell) : Bool :=
  !c.reductions.isEmpty || c.shift.isSome || c.extra || c.accept || c.recover

end Cell

/-- A state of the automaton: its actions on tokens and the states that rules lead to, both in order
of the symbols' numbers. -/
structure State where
  cells : Array (Nat × Cell)
  gotos : Array (Nat × Nat)
  /-- Whether reserved words are kept apart from names here. -/
  reserves : Bool
  /-- States with equal cores have the same items and differ in lookaheads only. -/
  core : Nat
  deriving Inhabited

namespace State

/-- The entry for a symbol in a sorted association list. -/
def find? {α : Type} (l : Array (Nat × α)) (symbol : Nat) : Option α := Id.run do
  let mut lo := 0
  let mut hi := l.size
  for _ in [0:40] do
    if hi ≤ lo then break
    let mid := (lo + hi) / 2
    match l[mid]? with
    | none => break
    | some (s, a) =>
      if s == symbol then return some a
      if s < symbol then lo := mid + 1 else hi := mid
  return .none

/-- The actions on a token. -/
def cell (s : State) (token : Nat) : Cell := (find? s.cells token).getD .none

/-- The tokens on which there is an action. -/
def tokens (s : State) : Bits := s.cells.foldl (fun b c => b.insert c.1) .empty

end State

namespace Automaton

/-- How two precedences, each with the rules it comes from, compare: numbers with numbers, and
otherwise by the first list that ranks both. -/
def comparePrecedence (g : Productions) (left : Precedence) (leftRules : List Nat)
    (right : Precedence) (rightRules : List Nat) : Ordering :=
  let ruleName (v : Nat) : String := (g.nonterminals.getD v default).name
  let ranks (p : Precedence) (rules : List Nat) : Ranked → Bool
    | .name n => p == .named n
    | .rule n => rules.any fun v => ruleName v == n
  let rec scan (sawLeft sawRight : Bool) : List Ranked → Option Ordering
    | [] => none
    | e :: rest =>
      if ranks left leftRules e then
        if sawRight then some .lt else scan true sawRight rest
      else if ranks right rightRules e then
        if sawLeft then some .gt else scan sawLeft true rest
      else scan sawLeft sawRight rest
  let byName := (g.precedences.findSome? (scan false false)).getD .eq
  match left, right with
  | .level l, .level r => if l != 0 || r != 0 then compare l r else byName
  | .level l, .none => if l != 0 then compare l 0 else byName
  | .none, .level r => if r != 0 then compare 0 r else byName
  | _, _ => byName

/-- What the reductions kept for one token have in common. -/
structure Kept where
  reductions : Array Reduction
  accept : Bool
  precedence : Precedence
  rules : List Nat
  left : Bool
  right : Bool
  neither : Bool
  deriving Inhabited

def Kept.empty : Kept := ⟨#[], false, .none, [], false, false, false⟩

/-- Adds a finished item to what is kept for a token: a reduction that binds more tightly displaces
those kept before, one that binds less tightly is dropped. -/
def Kept.add (g : Productions) (info : ItemInfo) (k : Kept) : Kept :=
  let augmented := info.owner == g.nonterminals.size
  let put (k : Kept) : Kept :=
    { reductions := if augmented then k.reductions else k.reductions.push info.reduction
      accept := k.accept || augmented
      precedence := info.precedence
      rules := if k.rules.contains info.owner then k.rules else info.owner :: k.rules
      left := k.left || info.associativity == some .left
      right := k.right || info.associativity == some .right
      neither := k.neither || info.associativity.isNone }
  if k.reductions.isEmpty && !k.accept then put k
  else
    match comparePrecedence g info.precedence [info.owner] k.precedence k.rules with
    | .gt => put .empty
    | .eq => put k
    | .lt => k

/-- Merges entries of equal items in a list sorted by item. -/
def mergeEntries (entries : Array Entry) : Array Entry :=
  entries.foldl (fun acc e =>
    match acc.back? with
    | some last =>
      if last.item == e.item then
        acc.pop.push { last with lookaheads := last.lookaheads.union e.lookaheads
                                 context := max last.context e.context }
      else acc.push e
    | none => acc.push e) #[]

/-- Sorts entries by item and merges equal items. -/
def normalise (entries : Array Entry) : Array Entry :=
  let sorted := Id.run do
    -- most sets are nearly sorted already, so insertion is quick
    let mut out : Array Entry := #[]
    for e in entries do
      out := out.push e
      let mut j := out.size - 1
      for _ in [0:out.size] do
        if j == 0 then break
        if (out.getD (j - 1) default).item ≤ (out.getD j default).item then break
        out := out.swapIfInBounds (j - 1) j
        j := j - 1
    return out
  mergeEntries sorted

/-- A state's items in full: those it was reached with, inlined rules replaced, and for each rule
that it begins the tokens that may follow and the context. -/
structure Closure where
  kernel : Array Entry
  rules : Array (Option (Bits × Nat))

/-- Expands the items with which a state is reached. -/
def close (g : Productions) (items : Items) (kernel : Array Entry) : Closure := Id.run do
  let mut expanded : Array Entry := #[]
  for e in kernel do
    match (items.infos.getD e.item default).replaced with
    | some qs => for q in qs do expanded := expanded.push { e with item := q }
    | none => expanded := expanded.push e
  let kernel := normalise expanded
  let mut rules : Array (Option (Bits × Nat)) := Array.replicate g.nonterminals.size none
  for e in kernel do
    let info := items.infos.getD e.item default
    if let some x := info.next then
      if g.isRule x then
        let (following, followingContext) := match info.afterNext with
          | some y => (items.first.getD y .empty, items.firstContext.getD y 0)
          | none => (e.lookaheads, e.context)
        for a in items.additions.getD (x - g.firstRule) #[] do
          let (old, oldContext) := (rules.getD a.owner none).getD (.empty, 0)
          let mut set := old.union a.lookaheads
          let mut context := oldContext
          if a.lookaheads.contains g.word then context := max context a.context
          if a.propagates then
            set := set.union following
            if following.contains g.word then context := max context followingContext
          rules := rules.set! a.owner (some (set, context))
  return ⟨kernel, rules⟩

/-- Settles a token on which a state could both reduce and shift, or reduce in several ways. The
items that expect the token after something read compete with the finished ones. -/
def resolve (g : Productions) (items : Items) (kernel : Array Entry) (token : Nat) (kept : Kept)
    (target : Option Nat) : Cell := Id.run do
  let reductions := kept.reductions.toList
  let plain : Cell := { Cell.none with reductions, shift := target, accept := kept.accept }
  if target.isNone then return plain
  let mut shifting : List (Precedence × Nat) := []
  let mut owners : List Nat := []
  for e in kernel do
    let info := items.infos.getD e.item default
    match info.next with
    | some x =>
      if info.dot > 0 && (items.first.getD x .empty).contains token then
        if info.owner != g.nonterminals.size then owners := info.owner :: owners
        shifting := (info.precedence, info.owner) :: shifting
    | none =>
      if e.lookaheads.contains token && info.owner != g.nonterminals.size then
        owners := info.owner :: owners
  -- two ways to split a repetition: both stay, the shift marked as such
  match owners with
  | o :: rest =>
    if (g.nonterminals.getD o default).kind == .auxiliary && rest.all (· == o) then
      return { plain with repetition := true }
  | [] => pure ()
  let mut more := false
  let mut less := false
  for (p, o) in shifting do
    match comparePrecedence g p [o] kept.precedence kept.rules with
    | .gt => more := true
    | .lt => less := true
    | .eq => pure ()
  if more && !less then return { Cell.none with shift := target }
  if less && !more then return { plain with shift := none }
  if !more && !less then
    if kept.left && !kept.right && !kept.neither then return { plain with shift := none }
    if kept.right && !kept.left && !kept.neither then return { Cell.none with shift := target }
  return plain

/-- The states found so far. -/
structure Builder where
  kernels : Array (Array Entry)
  cores : Array Nat
  byKernel : Std.HashMap (Array Entry) Nat
  byCore : Std.HashMap (Array Nat) Nat

/-- The number of the state with the given kernel, which is new if it was not known. -/
def Builder.stateOf (b : Builder) (kernel : Array Entry) : Nat × Builder :=
  match b.byKernel[kernel]? with
  | some n => (n, b)
  | none =>
    let n := b.kernels.size
    let core := kernel.map (·.item)
    let (c, byCore) := match b.byCore[core]? with
      | some c => (c, b.byCore)
      | none => (b.byCore.size, b.byCore.insert core b.byCore.size)
    (n, { kernels := b.kernels.push kernel, cores := b.cores.push c,
          byKernel := b.byKernel.insert kernel n, byCore })

/-- The actions of the state with the given kernel. -/
def populate (g : Productions) (items : Items) (core : Nat) (kernel : Array Entry) (b : Builder) :
    State × Builder := Id.run do
  let closure := close g items kernel
  let mut successors : Array (Array Entry) := Array.replicate g.symbolCount #[]
  let mut kept : Array (Option Kept) := Array.replicate g.firstRule none
  let mut wordContext : Option Nat := none
  -- rules that begin here, in the order of their items, then the items read so far
  for v in [0:g.nonterminals.size] do
    if let some (set, context) := closure.rules.getD v none then
      for i in items.initial.getD v #[] do
        let info := items.infos.getD i default
        match info.next with
        | some x =>
          successors := successors.modify x (·.push ⟨info.advanced, set, context⟩)
          if x == g.word then wordContext := some (max (wordContext.getD 0) info.context)
        | none =>
          for t in set.toListBelow g.firstRule do
            kept := kept.modify t fun k => some ((k.getD .empty).add g info)
          if set.contains g.word then wordContext := some (max (wordContext.getD 0) context)
  for e in closure.kernel do
    let info := items.infos.getD e.item default
    match info.next with
    | some x =>
      successors := successors.modify x (·.push ⟨info.advanced, e.lookaheads, e.context⟩)
      if x == g.word then wordContext := some (max (wordContext.getD 0) info.context)
    | none =>
      for t in e.lookaheads.toListBelow g.firstRule do
        kept := kept.modify t fun k => some ((k.getD .empty).add g info)
      if e.lookaheads.contains g.word then wordContext := some (max (wordContext.getD 0) e.context)
  let mut b := b
  let mut cells : Array (Nat × Cell) := #[]
  for t in [0:g.firstRule] do
    let next := successors.getD t #[]
    let mut target : Option Nat := none
    if !next.isEmpty then
      let (n, b') := b.stateOf (normalise next)
      target := some n
      b := b'
    match kept.getD t none with
    | some k => cells := cells.push (t, resolve g items closure.kernel t k target)
    | none =>
      if target.isSome then cells := cells.push (t, { Cell.none with shift := target })
      else if g.extras.contains t then cells := cells.push (t, { Cell.none with extra := true })
  let mut gotos : Array (Nat × Nat) := #[]
  for x in [g.firstRule:g.symbolCount] do
    let next := successors.getD x #[]
    if !next.isEmpty then
      let (n, b') := b.stateOf (normalise next)
      gotos := gotos.push (x, n)
      b := b'
  return ({ cells, gotos, reserves := wordContext == some 0, core }, b)

/-- All states, in the order in which they are found; at most `limit`. -/
def build (g : Productions) (items : Items) (limit : Nat) : Array State := Id.run do
  let mut b : Builder := ⟨#[], #[], ∅, ∅⟩
  b := (b.stateOf #[]).2
  b := (b.stateOf #[⟨items.start, Bits.singleton g.ending, 0⟩]).2
  let mut states : Array State := #[]
  for n in [0:limit] do
    if h : n < b.kernels.size then
      let kernel := b.kernels[n]
      let (s, b') := populate g items (b.cores.getD n 0) kernel b
      states := states.push s
      b := b'
    else break
  return states

end Automaton

end Advisor.Grammar
