import Advisor.Grammar.Overlap

/-!
# Compact tables

The automaton's states are many, and most of them differ only in which tokens they know. This module
adds the error state's actions, finds the keywords, and then merges states: two states become one if
they agree wherever both act, and if neither learns a token that would change how its text is read.
Steps that would only rename a hidden child are cut short afterwards.
-/

namespace Advisor.Grammar.Compact

/-- Which tokens occur together in some state, by number of pattern token; `wordless` counts only the
states in which a word is not allowed. -/
structure Together where
  all : Array Bits
  wordless : Array Bits

/-- The pattern tokens of a set of tokens. -/
def patternTokens (g : Productions) (s : Bits) : List Nat :=
  (s.toListBelow g.firstRule).filterMap fun t => if g.firstToken ≤ t then some (t - g.firstToken) else none

/-- Collects the tokens that occur together. -/
def together (g : Productions) (states : Array State) : Together := Id.run do
  let mut all : Array Bits := Array.replicate g.tokens.size .empty
  let mut wordless : Array Bits := Array.replicate g.tokens.size .empty
  for s in states do
    let tokens := s.tokens
    let list := patternTokens g tokens
    let set := Bits.ofList list
    for t in list do
      all := all.modify t (·.union set)
      if !tokens.contains g.word then wordless := wordless.modify t (·.union set)
  return ⟨all, wordless⟩

/-- Whether a token can only begin with a letter or an underscore. -/
def startsWithLetter (l : Lexing) (t : Nat) : Bool :=
  match (l.token t).lexeme.charSets.head? with
  | some s => !s.negated && s.ranges.all fun r =>
      (r.1 == 0x5f && r.2 == 0x5f) || (0x41 ≤ r.1 && r.2 ≤ 0x5a) || (0x61 ≤ r.1 && r.2 ≤ 0x7a)
  | none => false

/-- The keywords: tokens that are special cases of the word token and can be told apart after a word
has been read. -/
def keywords (g : Productions) (l : Lexing) (o : Overlap) (tg : Together) : List Nat :=
  let word := g.word - g.firstToken
  let all := List.range g.tokens.size
  let candidates := all.filter fun t =>
    startsWithLetter l t && (o.get t word).sameText && !(o.get t word).otherText
  let unshadowed := candidates.filter fun t =>
    candidates.all fun u => u == t || !(o.get u t).sameText
  unshadowed.filter fun t =>
    all.all fun u =>
      candidates.contains u || !(tg.wordless.getD t .empty).contains u || o.get t u == o.get word u

/-- The tokens that the error state reads: all but those that would be mistaken for another. -/
def errorTokens (g : Productions) (o : Overlap) (tg : Together) (keywords : List Nat) : List Nat :=
  let all := List.range g.tokens.size
  let occur (t u : Nat) : Bool := (tg.all.getD t .empty).contains u
  let free := all.filter fun t =>
    !(all.any fun u => u != t && !occur t u && o.longerOrShorter t u)
  all.filter fun t =>
    free.contains t || keywords.contains t || g.word == g.firstToken + t
      || !(free.any fun u => !occur t u && (o.get t u).conflicts)

/-- The error state: every token it reads takes part in the recovery. -/
def errorState (g : Productions) (tokens : List Nat) (s : State) : State :=
  let recover : Cell := { Cell.none with recover := true }
  let cells := (List.range g.firstRule).filterMap fun t =>
    let own := s.cell t
    if own.isSome && t != g.ending then some (t, own)
    else if t == g.ending then some (t, recover)
    else if t < g.externals.size then
      if (g.externals.getD t default).internal.isNone then some (t, recover) else none
    else if tokens.contains (t - g.firstToken) then some (t, recover)
    else none
  { s with cells := cells.toArray }

/-- What merging needs to know about the tokens: those that may never be added to a state, and for
each pattern token the others beside which it may not be added. -/
structure Clashes where
  never : Bits
  beside : Array Bits

/-- The clashes between tokens of a language. A word and a keyword do not clash. -/
def clashes (g : Productions) (o : Overlap) (keywords : List Nat) : Clashes :=
  let word := g.word - g.firstToken
  let scanner := Bits.ofList (List.range g.externals.size)
  let never := g.externals.foldl (fun acc e =>
    match e.internal with
    | some t => acc.insert t
    | none => acc) scanner
  let keywordSet := Bits.ofList keywords
  let beside := (Array.range g.tokens.size).map fun t =>
    (List.range g.tokens.size).foldl (fun acc u =>
      let exempt := (u == word && keywordSet.contains t) || (t == word && keywordSet.contains u)
      let r := o.get t u
      if !exempt && (r.conflicts || r.sameText) then acc.insert (g.firstToken + u) else acc) Bits.empty
  ⟨never, beside⟩

/-- A state as merging compares it: its tokens, its actions with reductions numbered, its gotos. -/
structure Compared where
  tokens : Bits
  actions : Array (Nat × Nat × Option Nat × Bool)
  gotos : Array (Nat × Nat)
  deriving Inhabited

/-- Numbers the lists of reductions so that equal lists have equal numbers. -/
def compared (states : Array State) : Array Compared := Id.run do
  let mut numbers : Std.HashMap (List Reduction) Nat := ∅
  let mut result : Array Compared := #[]
  for s in states do
    let mut actions : Array (Nat × Nat × Option Nat × Bool) := #[]
    for (t, c) in s.cells do
      let n ← match numbers[c.reductions]? with
        | some n => pure n
        | none => pure numbers.size
      if n == numbers.size then numbers := numbers.insert c.reductions n
      actions := actions.push (t, n, c.shift, c.repetition)
    result := result.push ⟨s.tokens, actions, s.gotos⟩
  return result

/-- Walks two association lists sorted by key and asks for the common keys. -/
def anyCommon {α β : Type} (f : α → β → Bool) (a : Array (Nat × α)) (b : Array (Nat × β)) : Bool := Id.run do
  let mut i := 0
  let mut j := 0
  for _ in [0:a.size + b.size] do
    match a[i]?, b[j]? with
    | some (s, x), some (t, y) =>
      if s == t then
        if f x y then return true
        i := i + 1
        j := j + 1
      else if s < t then i := i + 1
      else j := j + 1
    | _, _ => break
  return false

/-- Whether one of the tokens would clash with a state that does not know it. -/
def learnsBadly (g : Productions) (c : Clashes) (new old : Bits) : Bool :=
  new.meets c.never || (new.toListBelow g.firstRule).any fun t =>
    g.firstToken ≤ t && (c.beside.getD (t - g.firstToken) .empty).meets old

/-- Whether two states cannot be merged: they act differently on a token, or one would learn a token
that clashes. -/
def conflict (g : Productions) (c : Clashes) (groups : Array Nat) (a b : Compared) : Bool :=
  let group (s : Nat) : Nat := groups.getD s 0
  anyCommon (fun (x y : Nat × Option Nat × Bool) =>
    x.1 != y.1 || x.2.2 != y.2.2 ||
      (match x.2.1, y.2.1 with
        | none, none => false
        | some s, some t => group s != group t
        | _, _ => true)) a.actions b.actions
  || learnsBadly g c (a.tokens.diff b.tokens) b.tokens
  || learnsBadly g c (b.tokens.diff a.tokens) a.tokens

/-- Whether two states lead to different groups on some symbol. -/
def leadApart (groups : Array Nat) (a b : Compared) : Bool :=
  let group (s : Nat) : Nat := groups.getD s 0
  anyCommon (fun (x y : Nat × Option Nat × Bool) =>
    match x.2.1, y.2.1 with
    | some s, some t => group s != group t
    | _, _ => false) a.actions b.actions
  || anyCommon (fun s t => group s != group t) a.gotos b.gotos

/-- Groups of states, by number. -/
structure Grouping where
  members : Array (Array Nat)
  groups : Array Nat

/-- Splits each group once: in order, every member that is kept sends off the later members it may
not be with, and those sent off form one new group at the end, which is split in its turn. -/
def splitGroups (apart : Array Nat → Nat → Nat → Bool) (limit : Nat) (gr : Grouping) : Grouping × Bool := Id.run do
  let mut members := gr.members
  let mut groups := gr.groups
  let mut changed := false
  for n in [0:limit] do
    if n ≥ members.size then break
    let group := members.getD n #[]
    if group.size ≤ 1 then continue
    let mut out : Array Bool := Array.replicate group.size false
    let mut go : Array Nat := #[]
    for i in [0:group.size] do
      if out.getD i false then continue
      let left := group.getD i 0
      for j in [i + 1:group.size] do
        if out.getD j false then continue
        if apart groups left (group.getD j 0) then
          out := out.set! j true
          go := go.push (group.getD j 0)
    if !go.isEmpty then
      changed := true
      let mut stay : Array Nat := #[]
      for i in [0:group.size] do
        if !out.getD i false then stay := stay.push (group.getD i 0)
      members := members.set! n stay
      for s in go do
        groups := groups.set! s members.size
      members := members.push go
  return (⟨members, groups⟩, changed)

/-- Renumbers the states that a state leads to. -/
def mapTargets (f : Nat → Nat) (s : State) : State :=
  { s with cells := s.cells.map fun (t, c) => (t, { c with shift := c.shift.map f })
           gotos := s.gotos.map fun (x, n) => (x, f n) }

/-- Joins two association lists sorted by key; the second wins. -/
def joinSorted {α : Type} (a b : Array (Nat × α)) : Array (Nat × α) := Id.run do
  let mut i := 0
  let mut j := 0
  let mut out : Array (Nat × α) := #[]
  for _ in [0:a.size + b.size] do
    match a[i]?, b[j]? with
    | some (s, x), some (t, y) =>
      if s == t then
        out := out.push (t, y)
        i := i + 1
        j := j + 1
      else if s < t then
        out := out.push (s, x)
        i := i + 1
      else
        out := out.push (t, y)
        j := j + 1
    | some p, none =>
      out := out.push p
      i := i + 1
    | none, some q =>
      out := out.push q
      j := j + 1
    | none, none => break
  return out

/-- Merges the states that may be merged. -/
def merge (g : Productions) (c : Clashes) (states : Array State) : Array State := Id.run do
  let limit := states.size
  let coreCount := states.foldl (fun m s => max m (s.core + 1)) 0
  let mut members : Array (Array Nat) := Array.replicate coreCount #[]
  let mut groups : Array Nat := #[]
  for i in [0:states.size] do
    let core := (states.getD i default).core
    members := members.modify core (·.push i)
    groups := groups.push core
  let cmp := compared states
  let at' (i : Nat) : Compared := cmp.getD i default
  let (first, _) := splitGroups (fun gs i j => conflict g c gs (at' i) (at' j)) limit ⟨members, groups⟩
  let mut grouping := first
  for _ in [0:limit] do
    let (next, changed) := splitGroups (fun gs i j => leadApart gs (at' i) (at' j)) limit grouping
    grouping := next
    if !changed then break
  -- states 0 and 1 come first; every state of one group has the same number
  let order := Id.run do
    let mut order := (Array.range grouping.members.size)
    let place (order : Array Nat) (state slot : Nat) : Array Nat :=
      match order.findIdx? fun n => (grouping.members.getD n #[]).contains state with
      | some k => order.swapIfInBounds k slot
      | none => order
    order := place order 0 0
    order := place order 1 1
    return order.filter fun n => !(grouping.members.getD n #[]).isEmpty
  let mut renumber : Array Nat := Array.replicate grouping.members.size 0
  for k in [0:order.size] do
    renumber := renumber.set! (order.getD k 0) k
  let target (s : Nat) : Nat := renumber.getD (grouping.groups.getD s 0) 0
  let mut result : Array State := #[]
  for n in order do
    let group := grouping.members.getD n #[]
    let mut state := states.getD (group.getD 0 0) default
    for i in [1:group.size] do
      let other := states.getD (group.getD i 0) default
      state := { state with cells := joinSorted state.cells other.cells
                            gotos := joinSorted state.gotos other.gotos
                            reserves := state.reserves || other.reserves }
    result := result.push (mapTargets target state)
  return result

/-- For a state that can do nothing but wrap one child in a rule that does not show, that rule. -/
def renames (g : Productions) (aliased : List Nat) (s : State) : Option Nat := Id.run do
  let mut found : Option Nat := none
  for (_, c) in s.cells do
    if c.extra then continue
    if c.shift.isSome || c.accept || c.recover then return none
    for r in c.reductions do
      let plain := r.count == 1 && r.shape == 0 && !g.supertypes.contains r.symbol
        && !aliased.contains r.symbol && (g.defaultAliases.getD r.symbol none).isNone
        && ((g.variableOf? r.symbol).map (·.kind)) != some .shown
        && (found.isNone || found == some r.symbol)
      if plain then found := some r.symbol else return none
  return found

/-- Leads past states that only rename a hidden child. -/
def skipRenames (g : Productions) (states : Array State) : Array State :=
  let aliased := (g.nonterminals.toList.flatMap fun v => v.productions.toList.flatMap fun p =>
    p.steps.toList.filterMap fun s => if s.shownAs.isSome then some s.symbol else none).eraseDups
  let rename := states.map (renames g aliased)
  states.map fun s =>
    let past (n : Nat) : Nat := Id.run do
      let mut n := n
      for _ in [0:states.size] do
        match rename.getD n none with
        | some x =>
          match State.find? s.gotos x with
          | some m => if m == n then break else n := m
          | none => break
        | none => break
      return n
    mapTargets past s

/-- Drops the states that nothing leads to, and puts the larger ones first. -/
def tidy (states : Array State) : Array State := Id.run do
  let mut used : Array Bool := Array.replicate states.size false
  used := (used.set! 0 true).set! 1 true
  for s in states do
    for (_, c) in s.cells do
      if let some n := c.shift then used := used.set! n true
    for (_, n) in s.gotos do
      used := used.set! n true
  let size (n : Nat) : Nat :=
    let s := states.getD n default
    s.cells.size + s.gotos.size
  let kept := (List.range states.size).filter fun n => used.getD n false && 1 < n
  let order := 0 :: 1 :: kept.mergeSort fun a b => decide (size b ≤ size a)
  let mut renumber : Array Nat := Array.replicate states.size 0
  let mut k := 0
  for n in order do
    renumber := renumber.set! n k
    k := k + 1
  return order.toArray.map fun n => mapTargets (fun m => renumber.getD m 0) (states.getD n default)

end Advisor.Grammar.Compact
