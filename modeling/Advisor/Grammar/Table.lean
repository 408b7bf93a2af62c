import Advisor.Grammar.Compact

/-!
# Parse tables

The finished table of a language: for each state its actions by token, the states that rules lead to,
the tokens the lexer looks for, and the scanner tokens that are welcome. `Table.ofDescription` builds
it from a description.
-/

namespace Advisor.Grammar

/-- How a symbol shows in the tree. -/
structure SymbolInfo where
  name : String
  shown : Bool
  deriving Inhabited

/-- The table of a language. Symbols are numbered as in `Productions`. -/
structure Table where
  symbols : Array SymbolInfo
  externalCount : Nat
  ending : Nat
  firstToken : Nat
  firstRule : Nat
  word : Nat
  /-- The tokens in the order in which the recovery tries them. -/
  tokenOrder : Array Nat
  /-- For each state its actions, by token. -/
  cells : Array (Array Cell)
  /-- For each state the states that rules lead to, by rule; 0 if none. -/
  gotos : Array (Array Nat)
  /-- The names under which the children of a shape show. -/
  shapes : Array (Array (Option SymbolInfo))
  /-- Whether a state keeps reserved words apart from names. -/
  reserves : Array Bool
  reserved : Bits
  /-- For each state the set of tokens that the lexer looks for, by number. -/
  lexSets : Array Nat
  /-- The pattern tokens of each such set. -/
  lexTokens : Array (Array Nat)
  /-- For each such set and class of character the tokens that can begin with it, and whether it is a
  mere separator to all of them. -/
  lexStarts : Array (Array (Array (Nat × TokenPlace) × Bool))
  /-- The same after a separator, where immediate tokens can no longer begin. -/
  lexResumes : Array (Array (Array (Nat × TokenPlace) × Bool))
  /-- For each state the scanner tokens that are welcome. -/
  welcome : Array Bits
  lexing : Lexing
  /-- The order of symbols by which one of two readings without errors is preferred. -/
  ranks : Array Nat
  /-- The token of each keyword. -/
  keywords : Std.HashMap String Nat

namespace Table

/-- What state `s` does on token `t`. -/
@[inline] def cell (tb : Table) (s t : Nat) : Cell := (tb.cells.getD s #[]).getD t .none

/-- The state that symbol `x` leads to from state `s`; 0 if none. An extra token leads back to `s`. -/
def next (tb : Table) (s x : Nat) : Nat :=
  if x < tb.firstRule then
    let c := tb.cell s x
    if c.extra then s else c.shift.getD 0
  else (tb.gotos.getD s #[]).getD (x - tb.firstRule) 0

/-- Whether state `s` acts on token `t`. -/
def acts (tb : Table) (s t : Nat) : Bool := (tb.cell s t).isSome

/-- Whether the first thing state `s` does on token `t` is to reduce. -/
def reduces (tb : Table) (s t : Nat) : Bool := !(tb.cell s t).reductions.isEmpty

/-- Whether `t` is a word that state `s` does not take for a name. -/
def isReserved (tb : Table) (s t : Nat) : Bool := tb.reserves.getD s false && tb.reserved.contains t

/-- The tokens the lexer looks for in a state, by number of pattern token: a keyword is looked for as
a word. -/
def lexTokensOf (g : Productions) (keywords : Bits) (s : State) : Bits :=
  let word := g.word - g.firstToken
  let own := s.cells.foldl (fun acc (t, _) =>
    if g.firstToken ≤ t then
      let k := t - g.firstToken
      acc.insert (if keywords.contains k then word else k)
    else acc) Bits.empty
  if s.reserves then own.insert word else own

/-- Whether two sets of tokens can be looked for together. -/
def mayJoin (g : Productions) (o : Overlap) (tg : Compact.Together) (a b : Bits) : Bool :=
  let bad (t : Nat) (set : Bits) : Bool :=
    (set.toListBelow g.tokens.size).any fun u =>
      let r := o.get t u
      r.conflicts || r.stops
        || (!(tg.all.getD t .empty).contains u && (r.overlaps || (o.get u t).overlaps))
  let missing (x y : Bits) : Bool := ((x.diff y).toListBelow g.tokens.size).any fun t => bad t y
  !missing a b && !missing b a

/-- Joins the token sets of the states into few: each state's set joins the first that it may. -/
def joinLexSets (g : Productions) (o : Overlap) (tg : Compact.Together) (keywords : Bits)
    (states : Array State) : Array Nat × Array Bits := Id.run do
  let mut sets : Array Bits := #[]
  let mut numbers : Array Nat := #[]
  for s in states do
    let tokens := lexTokensOf g keywords s
    let mut found : Option Nat := none
    for k in [0:sets.size] do
      let set := sets.getD k .empty
      if mayJoin g o tg set tokens then
        found := some k
        break
    match found with
    | some k =>
      sets := sets.modify k (·.union tokens)
      numbers := numbers.push k
    | none =>
      numbers := numbers.push sets.size
      sets := sets.push tokens
  return (numbers, sets)

/-- Builds the table of a language. -/
def ofDescription (d : Description) : Table := Id.run do
  let g := Productions.ofDescription d
  let alts := Alternatives.ofProductions g 100000
  let items := Items.ofProductions g alts
  let states := Automaton.build g items 1000000
  let lexing := Lexing.ofProductions g
  let overlap := Overlap.ofProductions g items alts lexing
  let tg := Compact.together g states
  let keywordList := Compact.keywords g lexing overlap tg
  let errorTokens := Compact.errorTokens g overlap tg keywordList
  let states := states.modify 0 (Compact.errorState g errorTokens)
  let clashes := Compact.clashes g overlap keywordList
  let states := Compact.tidy (Compact.skipRenames g (Compact.merge g clashes states))
  let keywordSet := Bits.ofList keywordList
  let (lexSets, sets) := joinLexSets g overlap tg keywordSet states
  let lexTokens := sets.map fun s => (s.toListBelow g.tokens.size).toArray
  let begins (tokens : Array Nat) : Array (Array (Nat × TokenPlace) × Bool) :=
    (Array.range lexing.alphabet.size).map fun k =>
      let live := tokens.filterMap fun t => (lexing.step t (lexing.start t) k).map fun q => (t, q)
      (live.map fun (t, p, _) => (t, p), live.all fun (_, _, sep) => sep)
  let lexStarts := lexTokens.map begins
  let lexResumes := lexTokens.map fun tokens => begins (tokens.filter fun t => !(lexing.token t).immediate)
  let internal (t : Nat) : Option Nat := g.externals.findIdx? (·.internal == some t)
  let welcome := states.map fun s => s.cells.foldl (fun acc (t, _) =>
    if t < g.externals.size then acc.insert t
    else match internal t with
      | some e => acc.insert e
      | none => acc) Bits.empty
  let symbols := (Array.range g.symbolCount).map fun s =>
    match g.defaultAliases.getD s none with
    | some a => { name := a.name, shown := true : SymbolInfo }
    | none =>
      if s < g.externals.size then
        let e := g.externals.getD s default
        { name := e.name, shown := e.shown }
      else if s == g.ending then { name := "end", shown := false }
      else if s < g.firstRule then
        let t := g.tokenInfos.getD (s - g.firstToken) default
        { name := t.name, shown := t.shown }
      else
        let v := g.nonterminals.getD (s - g.firstRule) default
        { name := v.name, shown := v.kind == .shown }
  let others := (List.range g.tokens.size).filterMap fun k =>
    if g.firstToken + k == g.word then none else some (g.firstToken + k)
  return {
    symbols
    externalCount := g.externals.size
    ending := g.ending
    firstToken := g.firstToken
    firstRule := g.firstRule
    word := g.word
    tokenOrder := (g.word :: others ++ List.range g.externals.size).toArray
    cells := states.map fun s => (Array.range g.firstRule).map s.cell
    gotos := states.map fun s => (Array.range g.nonterminals.size).map fun v =>
      (State.find? s.gotos (g.firstRule + v)).getD 0
    shapes := items.shapes.map fun names => names.map fun a =>
      a.map fun a => { name := a.name, shown := true : SymbolInfo }
    reserves := states.map (·.reserves)
    reserved := Bits.ofList g.reserved
    lexSets, lexTokens, lexStarts, lexResumes, welcome, lexing
    ranks := (Array.range g.symbolCount).map fun s =>
      -- the end, the word, the other tokens, scanner tokens, rules
      if s == g.ending then 0
      else if s == g.word then 1
      else if s < g.externals.size then g.tokens.size + 1 + s
      else if s < g.firstRule then (if s < g.word then 2 + (s - g.firstToken) else 1 + (s - g.firstToken))
      else s
    keywords := keywordList.foldl (fun m k =>
      match (g.tokens.getD k default).literal with
      | some w => m.insert w (g.firstToken + k)
      | none => m) ∅ }

end Table

end Advisor.Grammar
