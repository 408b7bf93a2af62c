import Advisor.Grammar.Rule

/-!
# Productions

A description turned into numbered symbols and flat productions. Symbols are numbered in four runs:
scanner tokens, the end of the text, tokens, and rules. Repetitions become auxiliary rules that join
two shorter repetitions, choices become separate productions, and an inlined rule is replaced by its
alternatives at the moment a production's dot reaches it (`Productions.inlinedAt`).
-/

namespace Advisor.Grammar

/-- One symbol of a production, with its marks. -/
structure Step where
  symbol : Nat
  precedence : Precedence
  associativity : Option Associativity
  shownAs : Option Alias
  field : Option String
  context : Nat
  deriving BEq, Inhabited

/-- An alternative of a rule. -/
structure Production where
  steps : Array Step
  dynamic : Int
  deriving BEq, Inhabited

/-- How a rule shows in the tree: as a node, as its children, or (for a repetition) not at all. -/
inductive Kind where
  | shown
  | hidden
  | auxiliary
  deriving BEq, Inhabited

/-- A rule with its alternatives. -/
structure Variable where
  name : String
  kind : Kind
  productions : Array Production
  deriving Inhabited

/-- How a token shows in the tree. -/
structure TokenInfo where
  name : String
  shown : Bool
  named : Bool
  deriving Inhabited

/-- A token recognised by a hand-written scanner; `internal` is the pattern token of the same name,
if there is one. -/
structure ExternalToken where
  name : String
  shown : Bool
  internal : Option Nat
  deriving Inhabited

/-- A language in productions. -/
structure Productions where
  externals : Array ExternalToken
  tokens : Array Token
  tokenInfos : Array TokenInfo
  nonterminals : Array Variable
  supertypes : List Nat
  inlined : List Nat
  extras : List Nat
  separators : CharSet
  word : Nat
  reserved : List Nat
  precedences : List (List Ranked)
  /-- The name under which a symbol shows wherever no production says otherwise. -/
  defaultAliases : Array (Option Alias)
  deriving Inhabited

namespace Productions

/-- The number of the end of the text. -/
def ending (g : Productions) : Nat := g.externals.size

/-- The number of the first token. -/
def firstToken (g : Productions) : Nat := g.externals.size + 1

/-- The number of the first rule; all smaller numbers are tokens. -/
def firstRule (g : Productions) : Nat := g.externals.size + 1 + g.tokens.size

/-- The number of symbols. -/
def symbolCount (g : Productions) : Nat := g.firstRule + g.nonterminals.size

/-- Whether the symbol is a rule. -/
def isRule (g : Productions) (symbol : Nat) : Bool := g.firstRule ≤ symbol

/-- The rule of a symbol. -/
def variableOf? (g : Productions) (symbol : Nat) : Option Variable :=
  if g.firstRule ≤ symbol then g.nonterminals[symbol - g.firstRule]? else none

/-- The pattern token of a symbol. -/
def token? (g : Productions) (symbol : Nat) : Option Token :=
  if g.firstToken ≤ symbol then g.tokens[symbol - g.firstToken]? else none

end Productions

namespace Rule

/-- The leaves in reading order. -/
def leaves {α : Type} : Rule α → List α
  | blank => []
  | leaf a => [a]
  | seq a b => a.leaves ++ b.leaves
  | choice a b => a.leaves ++ b.leaves
  | many a | prec _ _ a | dynamic _ a | as _ a | field _ a | inContext _ a => a.leaves

/-- The choice-free rules of which a rule is the choice. -/
def alternatives {α : Type} : Rule α → List (Rule α)
  | blank => [blank]
  | leaf a => [leaf a]
  | seq a b => a.alternatives.flatMap fun x => b.alternatives.map (seq x)
  | choice a b => a.alternatives ++ b.alternatives
  | many a => [many a]
  | prec p s a => a.alternatives.map (prec p s)
  | dynamic n a => a.alternatives.map (dynamic n)
  | as n a => a.alternatives.map (as n)
  | field n a => a.alternatives.map (field n)
  | inContext k a => a.alternatives.map (inContext k)

/-- The dynamic precedence of a choice-free rule: the first mark of the greatest absolute value. -/
def dynamicOf {α : Type} (acc : Int) : Rule α → Int
  | blank | leaf _ => acc
  | seq a b | choice a b => b.dynamicOf (a.dynamicOf acc)
  | dynamic n a => a.dynamicOf (if acc.natAbs < n.natAbs then n else acc)
  | many a | prec _ _ a | as _ a | field _ a | inContext _ a => a.dynamicOf acc

/-- Changes the last step. -/
def mapLast (f : Step → Step) : List Step → List Step
  | [] => []
  | [s] => [f s]
  | s :: t :: rest => s :: mapLast f (t :: rest)

/-- The steps of a choice-free rule under the marks of `outer`. Where a marked piece does not end the
production, its last step takes the precedence that surrounds the piece: what follows it binds there. -/
def steps (outer : Step) (atEnd : Bool) : Rule Nat → List Step
  | blank => []
  | leaf a => [{ outer with symbol := a }]
  | seq a b | choice a b => a.steps outer false ++ b.steps outer atEnd
  | prec p s a =>
    let inner := { outer with
      precedence := if p == .none then outer.precedence else p
      associativity := s <|> outer.associativity }
    let result := a.steps inner atEnd
    if atEnd then result
    else result |> mapLast fun last => { last with
      precedence := if p == .none then last.precedence else outer.precedence
      associativity := if s.isSome then outer.associativity else last.associativity }
  | as n a => a.steps { outer with shownAs := some n } atEnd
  | field n a => a.steps { outer with field := some n } atEnd
  | inContext k a => a.steps { outer with context := k } atEnd
  | dynamic _ a | many a => a.steps outer atEnd

/-- The productions of a rule, without repetition. -/
def productions (r : Rule Nat) : Array Production :=
  (r.alternatives.map fun a =>
    { steps := (a.steps ⟨0, .none, none, none, none, 0⟩ true).toArray
      dynamic := a.dynamicOf 0 : Production }).eraseDups.toArray

/-- The auxiliary rules made so far: `made` pairs each repeated piece with the symbol of its rule. -/
structure Repetitions where
  nextSymbol : Nat
  made : List (Rule Nat × Nat)
  rules : Array (String × Rule Nat)

/-- Replaces each repetition by a rule `r → r r | piece`; equal pieces share one rule. -/
def expandRepeats (owner : String) : Rule Nat → StateM Repetitions (Rule Nat)
  | blank => pure blank
  | leaf a => pure (leaf a)
  | seq a b => do return seq (← a.expandRepeats owner) (← b.expandRepeats owner)
  | choice a b => do return choice (← a.expandRepeats owner) (← b.expandRepeats owner)
  | prec p s a => do return prec p s (← a.expandRepeats owner)
  | dynamic n a => do return dynamic n (← a.expandRepeats owner)
  | as n a => do return as n (← a.expandRepeats owner)
  | field n a => do return field n (← a.expandRepeats owner)
  | inContext k a => do return inContext k (← a.expandRepeats owner)
  | many a => do
    let piece ← a.expandRepeats owner
    let st ← get
    match st.made.find? (·.1 == piece) with
    | some (_, symbol) => return leaf symbol
    | none =>
      let symbol := st.nextSymbol
      let rule := choice (seq (leaf symbol) (leaf symbol)) piece
      set { nextSymbol := symbol + 1, made := (piece, symbol) :: st.made,
            rules := st.rules.push (owner ++ " repeated", rule) : Repetitions }
      return leaf symbol

end Rule

namespace Productions

/-- Whether a rule's name says that it never shows in the tree. -/
def isHiddenName (name : String) : Bool := name.startsWith "_"

/-- The tokens of a description in order of first use, with the number of their uses. -/
def countTokens (leaves : List Leaf) : Array (Token × Nat) :=
  leaves.foldl (fun acc l =>
    match l with
    | .ref _ => acc
    | .token t =>
      match acc.findIdx? (·.1 == t) with
      | some i => acc.modify i fun p => (p.1, p.2 + 1)
      | none => acc.push (t, 1)) #[]

/-- For each symbol its most frequent alias, the earliest of equals, if it is aliased wherever it is
used. -/
def findDefaultAliases (symbolCount : Nat) (inlined extras : List Nat) (nonterminals : Array Variable) :
    Array (Option Alias) := Id.run do
  let mut plain : Array Bool := Array.replicate symbolCount false
  let mut seen : Array (List (Alias × Nat)) := Array.replicate symbolCount []
  for v in nonterminals do
    for p in v.productions do
      for s in p.steps do
        if inlined.contains s.symbol then continue
        match s.shownAs with
        | none => plain := plain.set! s.symbol true
        | some a =>
          let old := seen.getD s.symbol []
          let new := if old.any (·.1 == a) then old.map fun q => if q.1 == a then (q.1, q.2 + 1) else q
            else old ++ [(a, 1)]
          seen := seen.set! s.symbol new
  for e in extras do
    plain := plain.set! e true
  return (Array.range symbolCount).map fun s =>
    if plain.getD s true then none
    else (seen.getD s []).foldl (fun best q =>
      match best with
      | none => some q
      | some b => if b.2 < q.2 then some q else some b) none |>.map (·.1)

/-- Drops an alias that is the symbol's default, unless another alternative of the rule needs the
same alias at the same place for a symbol without that default. -/
def clearDefaultAliases (defaults : Array (Option Alias)) (v : Variable) : Variable :=
  let needed (i j : Nat) (a : Alias) : Bool :=
    (List.range v.productions.size).any fun k =>
      k != i && match (v.productions.getD k default).steps[j]? with
        | some s => s.shownAs == some a && defaults.getD s.symbol none != some a
        | none => false
  { v with productions := v.productions.mapIdx fun i p =>
      { p with steps := p.steps.mapIdx fun j s =>
          match s.shownAs with
          | none => s
          | some a =>
            if defaults.getD s.symbol none == some a && !needed i j a then { s with shownAs := none }
            else s } }

/-- Numbers the symbols of a description and flattens its rules. A rule that is a token of its own,
used nowhere else, names that token. -/
def ofDescription (d : Description) : Productions := Id.run do
  let allLeaves := d.rules.flatMap (·.2.leaves) ++ d.externals
  let counted := countTokens allLeaves
  let tokens := counted.map (·.1)
  -- the rule that names each token
  let owner (i : Nat) (name : String) (r : Rule Leaf) : Option Nat :=
    if i == 0 then none else
    match r with
    | .leaf (.token t) =>
      match counted.findIdx? (·.1 == t) with
      | some k =>
        if (counted.getD k default).2 == 1 && (t.literal.isNone || !isHiddenName name) then some k else none
      | none => none
    | _ => none
  let owners := d.rules.mapIdx fun i p => (p.1, owner i p.1 p.2)
  let tokenInfos := tokens.mapIdx fun k t =>
    match owners.find? (·.2 == some k) with
    | some (name, _) => { name, shown := !isHiddenName name, named := true : TokenInfo }
    | none => { name := t.literal.getD "", shown := t.literal.isSome, named := false : TokenInfo }
  let kept := (d.rules.zip owners).filterMap fun (r, o) => if o.2.isSome then none else some r
  let externalCount := d.externals.length
  let firstToken := externalCount + 1
  let firstRule := firstToken + tokens.size
  let tokenSymbol (t : Token) : Nat := firstToken + (tokens.findIdx? (· == t)).getD 0
  let symbolOf (name : String) : Option Nat :=
    match kept.findIdx? (·.1 == name) with
    | some k => some (firstRule + k)
    | none =>
      match owners.find? (·.1 == name) with
      | some (_, some k) => some (firstToken + k)
      | _ => d.externals.findIdx? (· == .ref name)
  let resolve : Leaf → Nat
    | .token t => tokenSymbol t
    | .ref name => (symbolOf name).getD 0
  let externals := d.externals.toArray.map fun l =>
    match l with
    | .token t => { name := t.literal.getD "", shown := true, internal := some (tokenSymbol t) : ExternalToken }
    | .ref name =>
      { name, shown := !isHiddenName name
        internal := match symbolOf name with
          | some s => if firstToken ≤ s then some s else none
          | none => none : ExternalToken }
  let expand : StateM Rule.Repetitions (List (String × Rule Nat)) :=
    kept.mapM fun (name, r) => do return (name, ← (r.map resolve).expandRepeats name)
  let (flat, repetitions) := expand.run { nextSymbol := firstRule + kept.length, made := [], rules := #[] }
  let isHidden (name : String) : Bool := isHiddenName name || d.supertypes.contains name
  let written : Array Variable := flat.toArray.map fun (name, r) =>
    { name, kind := if isHidden name then .hidden else .shown, productions := r.productions }
  let auxiliary : Array Variable := repetitions.rules.map fun (name, r) =>
    { name, kind := .auxiliary, productions := r.productions }
  let nonterminals := written ++ auxiliary
  let inlined := d.inlined.filterMap symbolOf
  let extras := d.extras.filterMap symbolOf
  let defaults := findDefaultAliases (firstRule + nonterminals.size) inlined extras nonterminals
  return {
    externals, tokens, tokenInfos
    nonterminals := nonterminals.map (clearDefaultAliases defaults)
    supertypes := d.supertypes.filterMap symbolOf
    inlined, extras
    separators := d.separators
    word := (symbolOf d.word).getD 0
    reserved := d.reserved.filterMap fun w =>
      (tokens.findIdx? (·.literal == some w)).map (firstToken + ·)
    precedences := d.precedences
    defaultAliases := defaults }

/-- The field names that a rule gives its parent: its own, and those of children that do not show. -/
def fieldsOf (g : Productions) : Array (List String) := Id.run do
  let mut fields : Array (List String) := Array.replicate g.nonterminals.size []
  -- each round passes fields one rule further up
  for _ in [0:g.nonterminals.size] do
    let before := fields
    let mut changed := false
    for i in [0:g.nonterminals.size] do
      let v := g.nonterminals.getD i default
      let mut mine := before.getD i []
      for p in v.productions do
        for s in p.steps do
          if let some f := s.field then
            if !mine.contains f then mine := mine ++ [f]
          if g.isRule s.symbol && s.shownAs.isNone && (g.defaultAliases.getD s.symbol none).isNone
              && !g.supertypes.contains s.symbol then
            match g.variableOf? s.symbol with
            | some child =>
              if child.kind != .shown then
                for f in before.getD (s.symbol - g.firstRule) [] do
                  if !mine.contains f then mine := mine ++ [f]
            | none => pure ()
      if mine.length != (before.getD i []).length then changed := true
      fields := fields.set! i mine
    if !changed then break
  return fields

end Productions

/-- A production together with the rule it belongs to. -/
structure Alternative where
  owner : Nat
  production : Production
  deriving BEq, Inhabited

/-- All productions in one list, those with inlined rules after the written ones. `inlinedAt` gives,
for a production and a place where an inlined rule stands, the productions that replace it. -/
structure Alternatives where
  list : Array Alternative
  /-- The first alternative of each rule; a rule's written alternatives follow one another. -/
  starts : Array Nat
  inlinedAt : Array (Array (Option (Array Nat)))
  deriving Inhabited

namespace Alternatives

/-- Puts the steps of `p` in the place of step `i` of `q`: they take its alias and field, the last of
them also its precedence and associativity where it has none of its own. -/
def substitute (q : Production) (i : Nat) (p : Production) : Production :=
  match q.steps[i]? with
  | none => q
  | some old =>
    let inserted := p.steps.map fun s => { s with
      shownAs := if old.shownAs.isSome then old.shownAs else s.shownAs
      field := if old.field.isSome then old.field else s.field }
    let inserted := inserted.modify (inserted.size - 1) fun s => { s with
      precedence := if s.precedence == .none then old.precedence else s.precedence
      associativity := if s.associativity.isNone then old.associativity else s.associativity }
    { steps := q.steps.extract 0 i ++ inserted ++ q.steps.extract (i + 1) q.steps.size
      dynamic := if q.dynamic.natAbs < p.dynamic.natAbs then p.dynamic else q.dynamic }

/-- Replaces the rule at step `i` as long as it is an inlined one; inlined rules nest at most
`depth` deep. -/
def expandAt (g : Productions) (i : Nat) : Nat → Production → List Production
  | 0, q => [q]
  | depth + 1, q =>
    match q.steps[i]? with
    | none => [q]
    | some s =>
      if g.inlined.contains s.symbol then
        match g.variableOf? s.symbol with
        | some v => v.productions.toList.flatMap fun p => expandAt g i depth (substitute q i p)
        | none => [q]
      else [q]

/-- Lists the productions and inlines the rules that ask for it. -/
def ofProductions (g : Productions) (limit : Nat) : Alternatives := Id.run do
  let mut list : Array Alternative := #[]
  let mut starts : Array Nat := #[]
  for i in [0:g.nonterminals.size] do
    starts := starts.push list.size
    for p in (g.nonterminals.getD i default).productions do
      list := list.push ⟨i, p⟩
  starts := starts.push list.size
  let mut inlinedAt : Array (Array (Option (Array Nat))) := #[]
  -- every production gets its row in turn, also those added on the way
  for k in [0:limit] do
    if h : k < list.size then
      let alt := list[k]
      let mut row : Array (Option (Array Nat)) := #[]
      for i in [0:alt.production.steps.size] do
        let s := alt.production.steps.getD i default
        if g.inlined.contains s.symbol then
          let mut found : Array Nat := #[]
          for p in expandAt g i 8 alt.production do
            let new : Alternative := ⟨alt.owner, p⟩
            match list.findIdx? (· == new) with
            | some n => found := found.push n
            | none =>
              found := found.push list.size
              list := list.push new
          row := row.push (some found)
          -- the dot never passes this place in this production
          break
        else row := row.push none
      inlinedAt := inlinedAt.push row
    else break
  return { list, starts, inlinedAt }

end Alternatives

end Advisor.Grammar
