import Advisor.Grammar.Automaton

/-!
# Overlapping tokens

Tokens are read longest first, and two tokens that can match at one place compete. This module says
how: `Lexing` runs any set of tokens over a text side by side, and `Overlap` records for each pair of
tokens whether one matches what the other matches, a beginning of it, or more than it.
-/

namespace Advisor.Grammar

/-- The tokens of a language with their automata over one alphabet. -/
structure Lexing where
  alphabet : Alphabet
  tokens : Array Token
  recognisers : Array Recogniser
  /-- The classes of separators. -/
  blank : Array Bool
  deriving Inhabited

/-- Where a token is while a text is read: still in the separators before it, or in a state of its
automaton. -/
inductive TokenPlace where
  | separators
  | inside (state : Nat)
  deriving BEq, Inhabited

namespace Lexing

/-- The tokens of a language, ready to be read. -/
def ofProductions (g : Productions) : Lexing :=
  let sets := (g.separators :: g.tokens.toList.flatMap (·.lexeme.charSets)).eraseDups.toArray
  let alphabet := Alphabet.ofSets sets
  { alphabet, tokens := g.tokens
    recognisers := g.tokens.map fun t => Recogniser.ofLexeme alphabet 400 t.lexeme
    blank := alphabet.samples.map g.separators.contains }

/-- The token numbered `t`. -/
@[inline] def token (l : Lexing) (t : Nat) : Token := l.tokens.getD t default

/-- Where a token starts. -/
def start (l : Lexing) (t : Nat) : TokenPlace :=
  if (l.token t).immediate then .inside 0 else .separators

/-- The place after a character of class `k`; the flag tells whether it was a separator. -/
@[inline] def step (l : Lexing) (t : Nat) (p : TokenPlace) (k : Nat) : Option (TokenPlace × Bool) :=
  let m := l.recognisers.getD t default
  match p with
  | .separators =>
    if l.blank.getD k false then some (.separators, true)
    else (m.step 0 k).map fun s => (.inside s, false)
  | .inside s => (m.step s k).map fun s => (.inside s, false)

/-- Whether the token is complete. -/
@[inline] def complete (l : Lexing) (t : Nat) : TokenPlace → Bool
  | .separators => false
  | .inside s => (l.recognisers.getD t default).accepts s

/-- Of two complete tokens the one of higher precedence wins, then the one of higher rank, then the
one listed first. -/
def preferToken (l : Lexing) (t u : Nat) : Bool :=
  let a := l.token t
  let b := l.token u
  if a.precedence != b.precedence then b.precedence < a.precedence
  else if a.rank != b.rank then b.rank < a.rank
  else t < u

/-- Whether reading goes on after token `t` is complete: not into something of lower precedence, nor,
at equal precedence, into separators or, where separators may follow, away from `t`. -/
def preferReading (l : Lexing) (t : Nat) (precedence : Int) (separator withinSeparators tLives : Bool) :
    Bool :=
  let p := (l.token t).precedence
  if precedence < p then false
  else if precedence == p then !separator && (tLives || !withinSeparators)
  else true

/-- The precedence with which a token reads a character. -/
@[inline] def readPrecedence (l : Lexing) (t : Nat) (separator : Bool) : Int :=
  if separator then 0 else (l.token t).precedence

end Lexing

/-- How a token `t` relates to a token `u`. -/
structure Relation where
  /-- Both match one text, and `t` is preferred. -/
  sameText : Bool
  /-- `t` matches a text that `u` does not begin to match. -/
  otherText : Bool
  /-- `t` is complete where `u` would have to go on, and reading stops. -/
  stops : Bool
  /-- `t` goes on where `u` is complete. -/
  goesOn : Bool
  /-- The same, with a character that can follow `u`. -/
  goesOnValidly : Bool
  /-- `t` is complete where separators are read. -/
  onSeparators : Bool
  deriving BEq, Inhabited

namespace Relation

/-- No relation found. -/
def none : Relation := ⟨false, false, false, false, false, false⟩

/-- The tokens compete wherever both are allowed. -/
def conflicts (r : Relation) : Bool := r.goesOnValidly || r.onSeparators || r.sameText

/-- The tokens have a text in common, or the beginning of one. -/
def overlaps (r : Relation) : Bool := r.onSeparators || r.stops || r.sameText || r.goesOn

end Relation

/-- The relations of all pairs of tokens. -/
structure Overlap where
  size : Nat
  relations : Array Relation
  deriving Inhabited

namespace Overlap

/-- How token `t` relates to token `u`. -/
def get (o : Overlap) (t u : Nat) : Relation := o.relations.getD (t * o.size + u) .none

/-- Whether `t` competes with a longer or shorter `u`, but not the other way round. -/
def longerOrShorter (o : Overlap) (t u : Nat) : Bool :=
  let r := o.get t u
  (r.goesOnValidly || r.onSeparators) && !(o.get u t).onSeparators

/-- Compares two tokens by reading all texts that both begin to match. `following` holds, for each
token, the classes of characters that can come after it. -/
def compare (l : Lexing) (following : Array Bits) (t u : Nat) : Relation × Relation := Id.run do
  let mut a := Relation.none
  let mut b := Relation.none
  let mut stack : List (Option TokenPlace × Option TokenPlace) := [(some (l.start t), some (l.start u))]
  let mut visited : List (Option TokenPlace × Option TokenPlace) := []
  for _ in [0:100000] do
    match stack with
    | [] => break
    | (p, q) :: rest =>
      stack := rest
      match p, q with
      | some _, .none => a := { a with otherText := true }
      | .none, some _ => b := { b with otherText := true }
      | .none, .none => pure ()
      | some p, some q =>
        let within := p == .separators || q == .separators
        let tDone := l.complete t p
        let uDone := l.complete u q
        if within then
          if tDone then a := { a with onSeparators := true }
          if uDone then b := { b with onSeparators := true }
        let mut completed : Option Bool := .none  -- whether the completed token is `t`
        if tDone && uDone then
          let tWins := l.preferToken t u
          completed := some tWins
          if tWins then a := { a with sameText := true } else b := { b with sameText := true }
        else if tDone then completed := some true
        else if uDone then completed := some false
        for k in [0:l.alphabet.size] do
          let p' := l.step t p k
          let q' := l.step u q k
          if p'.isNone && q'.isNone then continue
          if let some isT := completed then
            let tLives := p'.isSome
            let uLives := q'.isSome
            let (stays, advances) := if isT then (tLives, uLives) else (uLives, tLives)
            if advances && !stays then
              let mover := if isT then u else t
              let separator := match (if isT then q' else p') with
                | some (_, s) => s
                | .none => false
              if l.preferReading (if isT then t else u) (l.readPrecedence mover separator) separator
                  within false then
                if isT then
                  b := { b with goesOn := true
                                goesOnValidly := b.goesOnValidly || (following.getD t .empty).contains k }
                else
                  a := { a with goesOn := true
                                goesOnValidly := a.goesOnValidly || (following.getD u .empty).contains k }
              else if isT then a := { a with stops := true }
              else b := { b with stops := true }
          let next := (p'.map (·.1), q'.map (·.1))
          if !visited.contains next then
            visited := next :: visited
            stack := next :: stack
  return (a, b)

/-- The tokens that can come right after each token, as numbers of pattern tokens. -/
def followingTokens (g : Productions) (items : Items) (alts : Alternatives) : Array Bits := Id.run do
  let count := g.tokens.size
  let base := g.firstToken
  let mut result : Array Bits := Array.replicate count .empty
  let shift (s : Bits) : Bits :=
    (s.toListBelow g.firstRule).foldl (fun acc t => if base ≤ t then acc.insert (t - base) else acc) .empty
  let firsts := items.first.map shift
  let lasts := items.last.map shift
  let mut pairs : Array Bits := Array.replicate g.symbolCount .empty
  for alt in alts.list do
    for i in [1:alt.production.steps.size] do
      let left := (alt.production.steps.getD (i - 1) default).symbol
      let right := (alt.production.steps.getD i default).symbol
      pairs := pairs.modify left (·.union (firsts.getD right .empty))
  for s in [0:g.symbolCount] do
    let set := pairs.getD s .empty
    for t in (lasts.getD s .empty).toListBelow count do
      result := result.modify t (·.union set)
  for e in g.extras do
    if base ≤ e && e < g.firstRule then
      result := result.map (·.insert (e - base))
      result := result.set! (e - base) (Bits.ofList (List.range count))
  return result

/-- The relations of all pairs of tokens of a language. -/
def ofProductions (g : Productions) (items : Items) (alts : Alternatives) (l : Lexing) : Overlap := Id.run do
  let count := g.tokens.size
  let starting := (Array.range count).map fun t =>
    (List.range l.alphabet.size).foldl (fun acc k =>
      if (l.step t (l.start t) k).isSome then acc.insert k else acc) Bits.empty
  let following := (followingTokens g items alts).map fun s =>
    (s.toListBelow count).foldl (fun acc t => acc.union (starting.getD t .empty)) Bits.empty
  let mut relations : Array Relation := Array.replicate (count * count) .none
  for t in [0:count] do
    for u in [0:t] do
      let (a, b) := compare l following t u
      relations := relations.set! (t * count + u) a
      relations := relations.set! (u * count + t) b
  return ⟨count, relations⟩

end Overlap

end Advisor.Grammar
