import Advisor.Grammar.Production

/-!
# Items

An item is a production with a dot that separates what has been read from what is expected. Two
items that expect the same and differ only in what they have read, but not in how it will show in
the tree, are one and the same; `Items` numbers the distinct ones in the order in which a state
lists them. The module also holds the sets the automaton is built from: the tokens that can begin
each symbol, and for each rule the rules its expansion brings into a state.
-/

namespace Advisor.Grammar

/-- A rule that the expansion of another rule brings into a state, with the tokens that may follow
it there. `propagates` says that it can end the expanded rule, so that whatever may follow that rule
may follow it too. -/
structure Addition where
  owner : Nat
  lookaheads : Bits
  context : Nat
  propagates : Bool
  deriving Inhabited

/-- What a finished item does: it replaces `count` children by a node. Two reductions are equal only
if also their children show under the same names and fields (`shape`). -/
structure Reduction where
  symbol : Nat
  count : Nat
  dynamic : Int
  shape : Nat
  deriving BEq, Hashable, Inhabited

/-- The facts about one item. -/
structure ItemInfo where
  alternative : Nat
  dot : Nat
  owner : Nat
  /-- The expected symbol, if the item is not finished. -/
  next : Option Nat
  /-- The symbol after that. -/
  afterNext : Option Nat
  /-- The context of the expected symbol. -/
  context : Nat
  /-- The item with the dot moved over the expected symbol. -/
  advanced : Nat
  /-- The precedence and associativity of the symbol just read. -/
  precedence : Precedence
  associativity : Option Associativity
  reduction : Reduction
  /-- The items that take this one's place because an inlined rule is expected. -/
  replaced : Option (Array Nat)
  deriving Inhabited

/-- The items of a language and the sets that go with them. -/
structure Items where
  infos : Array ItemInfo
  /-- The items with which each rule begins. -/
  initial : Array (Array Nat)
  /-- The item that expects the start rule and is finished when the text is. -/
  start : Nat
  first : Array Bits
  last : Array Bits
  firstContext : Array Nat
  additions : Array (Array Addition)
  /-- The names under which the children of each shape show. -/
  shapes : Array (Array (Option Alias))
  deriving Inhabited

namespace Items

/-- The position of a text in a sorted list, counted from one. -/
def rankIn (sorted : Array String) (s : String) : Nat := (sorted.findIdx? (· == s)).getD 0 + 1

/-- Sorts texts by code point and drops repetitions. -/
def sortNames (names : List String) : Array String :=
  (names.mergeSort fun a b => decide (a ≤ b)).eraseReps.toArray

/-- The numbers by which the marks of a step are ordered. -/
structure Ranks where
  names : Array String

def Ranks.precedence (r : Ranks) : Precedence → Nat
  | .none => 0
  | .level n => (n + 1000).toNat
  | .named s => 10000 + rankIn r.names s

def Ranks.associativity : Option Associativity → Nat
  | none => 0
  | some .left => 1
  | some .right => 2

def Ranks.shownAs (r : Ranks) : Option Alias → Nat
  | none => 0
  | some a => 2 * rankIn r.names a.name + (if a.named then 1 else 0)

def Ranks.field (r : Ranks) : Option String → Nat
  | none => 0
  | some f => rankIn r.names f

/-- Orders lists of numbers like words in a dictionary. -/
def lexLe : List Nat → List Nat → Bool
  | [], _ => true
  | _ :: _, [] => false
  | a :: as, b :: bs => if a < b then true else if b < a then false else lexLe as bs

/-- The tokens that can begin (or, taking the last steps, end) each symbol. -/
def edgeSets (g : Productions) (edge : Production → Option Step) : Array Bits := Id.run do
  let base := (Array.range g.firstRule).map Bits.singleton
  let mut sets := base ++ Array.replicate g.nonterminals.size Bits.empty
  -- each round passes tokens one rule further up
  for _ in [0:g.nonterminals.size] do
    let mut changed := false
    for i in [0:g.nonterminals.size] do
      let old := sets.getD (g.firstRule + i) .empty
      let mut new := old
      for p in (g.nonterminals.getD i default).productions do
        if let some s := edge p then
          new := new.union (sets.getD s.symbol .empty)
      if new != old then
        changed := true
        sets := sets.set! (g.firstRule + i) new
    if !changed then break
  return sets

/-- The greatest context in which a symbol's first steps stand. -/
def firstContexts (g : Productions) : Array Nat := Id.run do
  let mut result := Array.replicate g.symbolCount 0
  for _ in [0:g.nonterminals.size] do
    let mut changed := false
    for i in [0:g.nonterminals.size] do
      let old := result.getD (g.firstRule + i) 0
      let mut new := old
      for p in (g.nonterminals.getD i default).productions do
        if let some s := p.steps[0]? then
          new := max new (max s.context (if g.isRule s.symbol then result.getD s.symbol 0 else 0))
      if new != old then
        changed := true
        result := result.set! (g.firstRule + i) new
    if !changed then break
  return result

/-- The rules that the expansion of rule `i` brings in. -/
def additionsOf (g : Productions) (first : Array Bits) (firstContext : Array Nat) (i : Nat) :
    Array Addition := Id.run do
  let mut found : Array (Option Addition) := Array.replicate g.nonterminals.size none
  let mut stack : List Addition := [⟨i, .empty, 0, true⟩]
  for _ in [0:1000000] do
    match stack with
    | [] => break
    | a :: rest =>
      stack := rest
      let old := (found.getD a.owner none).getD ⟨a.owner, .empty, 0, false⟩
      let isNew := (found.getD a.owner none).isNone
      let new : Addition := { owner := a.owner, lookaheads := old.lookaheads.union a.lookaheads
                              context := max old.context a.context
                              propagates := old.propagates || a.propagates }
      if isNew || new.lookaheads != old.lookaheads || new.context != old.context
          || new.propagates != old.propagates then
        found := found.set! a.owner (some new)
        for p in (g.nonterminals.getD a.owner default).productions do
          if let some s := p.steps[0]? then
            if g.isRule s.symbol then
              let k := s.symbol - g.firstRule
              match p.steps[1]? with
              | some t =>
                stack := ⟨k, first.getD t.symbol .empty, firstContext.getD t.symbol 0, false⟩ :: stack
              | none => stack := { a with owner := k } :: stack
  return found.filterMap fun a =>
    match a with
    | some a => if g.inlined.contains (g.firstRule + a.owner) then none else some a
    | none => none

/-- Whether a production has read, before the dot, a rule that does not show but has fields: its
children then matter for the node's fields. -/
def readsFields (g : Productions) (fields : Array (List String)) (p : Production) (dot : Nat) : Bool :=
  (p.steps.extract 0 dot).any fun s =>
    match g.variableOf? s.symbol with
    | some v => v.kind != .shown && !(fields.getD (s.symbol - g.firstRule) []).isEmpty
    | none => false

/-- The number list that identifies an item and orders it in a state. -/
def key (g : Productions) (r : Ranks) (fields : Array (List String)) (alt : Alternative) (dot : Nat) :
    List Nat :=
  let p := alt.production
  let prev := if dot == 0 then none else p.steps[dot - 1]?
  let inherits := readsFields g fields p dot
  let stepKey (i : Nat) (s : Step) : List Nat :=
    if i < dot then
      [r.shownAs s.shownAs, r.field s.field] ++ (if inherits then [s.symbol] else [])
    else
      [s.symbol, r.precedence s.precedence, Ranks.associativity s.associativity, r.shownAs s.shownAs,
        r.field s.field, s.context]
  [dot, alt.owner, (p.dynamic + 1000).toNat, p.steps.size,
    r.precedence ((prev.map (·.precedence)).getD .none),
    Ranks.associativity (prev.bind (·.associativity)), if inherits then 1 else 0]
  ++ (p.steps.toList.mapIdx stepKey).flatten

/-- The names and fields under which a finished production's children show. -/
def shapeOf (g : Productions) (fields : Array (List String)) (p : Production) :
    List (Option Alias) × List (String × Nat × Bool) :=
  let aliases := (p.steps.toList.map (·.shownAs)).reverse.dropWhile (·.isNone) |>.reverse
  let places := p.steps.toList.mapIdx fun i s =>
    let own := match s.field with
      | some f => [(f, i, false)]
      | none => []
    let passed := match g.variableOf? s.symbol with
      | some v => if v.kind != .shown then
          (fields.getD (s.symbol - g.firstRule) []).map fun f => (f, i, true) else []
      | none => []
    own ++ passed
  (aliases, places.flatten.mergeSort fun a b => decide (a.1 ≤ b.1))

/-- Numbers the items of a language. -/
def ofProductions (g : Productions) (alts : Alternatives) : Items := Id.run do
  let fields := g.fieldsOf
  let startAlt : Alternative :=
    ⟨g.nonterminals.size, ⟨#[⟨g.firstRule, .none, none, none, none, 0⟩], 0⟩⟩
  let list := alts.list.push startAlt
  let names := sortNames <| list.toList.flatMap fun a => a.production.steps.toList.flatMap fun s =>
    (match s.shownAs with | some n => [n.name] | none => []) ++ s.field.toList
      ++ (match s.precedence with | .named n => [n] | _ => [])
  let ranks : Ranks := ⟨names⟩
  -- all dotted productions with their keys, in the order of the keys; no dot passes an inlined rule
  let dotted := list.toList.mapIdx fun k a =>
    let steps := a.production.steps
    let last := (steps.findIdx? fun s => g.inlined.contains s.symbol).getD steps.size
    (List.range (last + 1)).map fun d => (key g ranks fields a d, k, d)
  let sorted := dotted.flatten.mergeSort fun a b => lexLe a.1 b.1
  let mut numbers : Array (Array Nat) := list.map fun a =>
    Array.replicate (a.production.steps.size + 1) 0
  let mut representatives : Array (Nat × Nat) := #[]
  let mut previous : Option (List Nat) := none
  for (k, a, d) in sorted do
    if previous != some k then
      previous := some k
      representatives := representatives.push (a, d)
    numbers := numbers.modify a fun row => row.set! d (representatives.size - 1)
  let numberOf (a d : Nat) : Nat := (numbers.getD a #[]).getD d 0
  -- shapes, the plain one first
  let mut shapes : Array (List (Option Alias) × List (String × Nat × Bool)) := #[([], [])]
  let mut infos : Array ItemInfo := #[]
  for (a, d) in representatives do
    let alt := list.getD a default
    let p := alt.production
    let shape := shapeOf g fields p
    let mut shapeNumber := 0
    if d == p.steps.size then
      match shapes.findIdx? (· == shape) with
      | some n => shapeNumber := n
      | none =>
        shapeNumber := shapes.size
        shapes := shapes.push shape
    let prev := if d == 0 then none else p.steps[d - 1]?
    infos := infos.push {
      alternative := a, dot := d, owner := alt.owner
      next := p.steps[d]?.map (·.symbol)
      afterNext := p.steps[d + 1]?.map (·.symbol)
      context := (p.steps[d]?.map (·.context)).getD 0
      advanced := numberOf a (d + 1)
      precedence := (prev.map (·.precedence)).getD .none
      associativity := prev.bind (·.associativity)
      reduction := ⟨g.firstRule + alt.owner, p.steps.size, p.dynamic, shapeNumber⟩
      replaced := ((alts.inlinedAt.getD a #[]).getD d none).map fun qs => qs.map fun q => numberOf q d }
  let initial := (Array.range g.nonterminals.size).map fun v =>
    let lo := alts.starts.getD v 0
    let hi := alts.starts.getD (v + 1) 0
    let items := (List.range (hi - lo)).flatMap fun j =>
      match (alts.inlinedAt.getD (lo + j) #[]).getD 0 none with
      | some qs => qs.toList.map fun q => numberOf q 0
      | none => [numberOf (lo + j) 0]
    (items.mergeSort fun a b => decide (a ≤ b)).eraseReps.toArray
  let first := edgeSets g (·.steps[0]?)
  let last := edgeSets g fun p => p.steps[p.steps.size - 1]?
  let firstContext := firstContexts g
  return {
    infos, initial
    start := numberOf alts.list.size 0
    first, last, firstContext
    additions := (Array.range g.nonterminals.size).map (additionsOf g first firstContext)
    shapes := shapes.map (·.1.toArray) }

end Items

end Advisor.Grammar
