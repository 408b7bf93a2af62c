import Advisor.Parse.Subtree

/-!
# The lexer

Reads one token at a place, looking for those that the parser's state knows. A hand-written scanner
is asked first; then the pattern tokens are read side by side, longest match first. If nothing fits,
the tokens of the error state are tried, and characters that begin no token at all are skipped into
an error leaf.
-/

namespace Advisor.Parse

open Advisor.Grammar

/-- A scanner token: its number, where it starts and where it ends. -/
structure Scanned where
  token : Nat
  start : Span
  stop : Span

/-- A language: its table and its hand-written scanner, which is told the welcome tokens, the text and
the place. -/
structure Language where
  table : Table
  scanner : Bits → Text → Span → Option Scanned

/-- What reading pattern tokens came to: the token found with its end, where it starts after
separators, and how far reading went. -/
structure Reading where
  found : Option (Nat × Span)
  start : Span
  reached : Span

namespace Lexer

/-- The preferred one of the complete tokens. -/
def completed (l : Lexing) (live : Array (Nat × TokenPlace)) : Option Nat :=
  live.foldl (fun best (t, p) =>
    if l.complete t p then
      match best with
      | none => some t
      | some b => if l.preferToken b t then some b else some t
    else best) none

/-- Reads on with the tokens in `live`; `best` is the longest token found so far. -/
def readOn (l : Lexing) (text : Text) (start pos : Span) (live : Array (Nat × TokenPlace))
    (best : Option (Nat × Span)) : Reading :=
  let done := completed l live
  let best := match done with
    | some t => some (t, pos)
    | none => best
  if h : pos.chars < text.size then
    let c := text[pos.chars]
    let k := l.alphabet.classOf c.toNat
    let moved := live.filterMap fun (t, p) => (l.step t p k).map fun q => (t, q)
    if moved.isEmpty then ⟨best, start, pos⟩
    else
      let separator := moved.all fun (_, _, sep) => sep
      let precedence := moved.foldl (fun m (t, _, sep) => max m (l.readPrecedence t sep)) (-1000)
      let goOn := match done with
        | none => true
        | some t =>
          l.preferReading t precedence separator (live.any fun (_, p) => p == TokenPlace.separators)
            (moved.any fun (u, _) => u == t)
      if goOn then
        let next := pos.push c
        readOn l text (if separator then next else start) next (moved.map fun (t, p, _) => (t, p)) best
      else ⟨best, start, pos⟩
  else ⟨best, start, pos⟩
termination_by text.size - pos.chars
decreasing_by simp only [Span.push]; omega

/-- Skips separators and begins with the tokens that the first other character allows. `resumed` says
that a separator has been skipped. At the end of the text the end itself is found. -/
def readFrom (tb : Table) (set : Nat) (text : Text) (resumed : Bool) (pos : Span) : Reading :=
  if h : pos.chars < text.size then
    let c := text[pos.chars]
    let k := tb.lexing.alphabet.classOf c.toNat
    let rows := if resumed then tb.lexResumes else tb.lexStarts
    let (live, separator) := (rows.getD set #[]).getD k (#[], false)
    if live.isEmpty then ⟨none, pos, pos⟩
    else if separator then readFrom tb set text true (pos.push c)
    else
      match readOn tb.lexing text pos (pos.push c) live none with
      | ⟨found, start, reached⟩ => ⟨found.map fun (t, e) => (tb.firstToken + t, e), start, reached⟩
  else ⟨some (tb.ending, pos), pos, pos⟩
termination_by text.size - pos.chars
decreasing_by simp only [Span.push]; omega

/-- Reads the pattern tokens of a lex set. -/
def read (tb : Table) (set : Nat) (text : Text) (pos : Span) : Reading := readFrom tb set text false pos

/-- What one attempt at a token came to: a scanner token, or what reading pattern tokens gave. -/
inductive Attempt where
  | scanned (s : Scanned)
  | read (r : Reading)

/-- One attempt, with the tokens of state `mode`. An empty scanner token is refused if it would leave
the state as it is, in the error state, or (`mayBeEmpty`) if nothing was read since the last error. -/
def attempt (lang : Language) (text : Text) (mode : Nat) (mayBeEmpty : Bool) (pos : Span) : Attempt :=
  let tb := lang.table
  let plain := Attempt.read (read tb (tb.lexSets.getD mode 0) text pos)
  match lang.scanner (tb.welcome.getD mode .empty) text pos with
  | some s =>
    let refused := mode == 0 || !mayBeEmpty || tb.next mode s.token == mode
    if s.stop.bytes ≤ pos.bytes && refused then plain else .scanned s
  | none => plain

/-- Skips characters that begin no token: after `stop`, one attempt after another until a token is
found. An attempt that reads nothing skips one character. -/
def skipUnreadable (lang : Language) (text : Text) : Nat → Span → Span → Span
  | 0, _, stop => stop
  | fuel + 1, pos, stop =>
    match attempt lang text 0 false pos with
    | .scanned _ => stop
    | .read r =>
      if r.found.isSome then stop
      else if r.reached.bytes == stop.bytes then
        match text[r.reached.chars]? with
        | none => stop
        | some c =>
          let next := r.reached.push c
          skipUnreadable lang text fuel next next
      else skipUnreadable lang text fuel r.reached r.reached

/-- Turns what was read into a leaf; a word that is a keyword becomes that keyword if the state acts
on it or does not take it for a name. -/
def makeLeaf (tb : Table) (text : Text) (state : Nat) (origin start stop : Span) (token : Nat) : Subtree :=
  let padding := start.sub origin
  let size := stop.sub start
  if token == tb.word then
    match tb.keywords[String.ofList (text.extract start.chars stop.chars).toList]? with
    | some k =>
      if tb.acts state k || tb.isReserved state k then Subtree.leaf k padding size false true
      else Subtree.leaf token padding size false true
    | none => Subtree.leaf token padding size false false
  else Subtree.leaf token padding size (token == tb.ending) false

/-- The token at a place, as the given state reads it. -/
def next (lang : Language) (text : Text) (state : Nat) (mayBeEmpty : Bool) (pos : Span) : Subtree :=
  let tb := lang.table
  let scannedLeaf (s : Scanned) : Subtree :=
    Subtree.leaf s.token (s.start.sub pos) (s.stop.sub s.start) false false
  let unreadable (r : Reading) : Subtree :=
    let stop :=
      if r.reached.bytes == r.start.bytes then
        match text[r.reached.chars]? with
        | none => r.start
        | some c => skipUnreadable lang text (text.size + 1) (r.reached.push c) (r.reached.push c)
      else skipUnreadable lang text (text.size + 1) r.reached r.reached
    Subtree.leaf errorSymbol (r.start.sub pos) (stop.sub r.start) false false
  match attempt lang text state mayBeEmpty pos with
  | .scanned s => scannedLeaf s
  | .read r =>
    match r.found with
    | some (token, stop) => makeLeaf tb text state pos r.start stop token
    | none =>
      match attempt lang text 0 false pos with
      | .scanned s => scannedLeaf s
      | .read r =>
        match r.found with
        | some (token, stop) => makeLeaf tb text state pos r.start stop token
        | none => unreadable r

end Lexer

end Advisor.Parse
