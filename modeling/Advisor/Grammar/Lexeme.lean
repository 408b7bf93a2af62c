import Advisor.Grammar.Bits

/-!
# Lexemes

Regular patterns for tokens. A `Lexeme` is read one character at a time through its partial
derivatives: `derive c r` lists what may still have to be matched after `c`. The characters that
a family of patterns cannot tell apart form one class of an `Alphabet`, and `Recogniser` is the
finite automaton of one pattern over such classes.
-/

namespace Advisor.Grammar

/-- A set of characters: the code points inside (or, if negated, outside) some inclusive ranges. -/
structure CharSet where
  negated : Bool
  ranges : List (Nat × Nat)
  deriving BEq, Hashable, Inhabited

namespace CharSet

/-- Whether the code point `n` is in the set. -/
def contains (s : CharSet) (n : Nat) : Bool :=
  s.ranges.any (fun r => r.1 ≤ n && n ≤ r.2) != s.negated

/-- The characters in one of the ranges. -/
def ofRanges (rs : List (Nat × Nat)) : CharSet := ⟨false, rs⟩

/-- The characters in none of the ranges. -/
def outside (rs : List (Nat × Nat)) : CharSet := ⟨true, rs⟩

end CharSet

/-- A regular pattern. -/
inductive Lexeme where
  /-- Matches the empty text. -/
  | empty
  /-- Matches one character of the set. -/
  | set (s : CharSet)
  | seq (a b : Lexeme)
  | alt (a b : Lexeme)
  | star (a : Lexeme)
  deriving BEq, Hashable, Inhabited

namespace Lexeme

/-- Whether the pattern matches the empty text. -/
def nullable : Lexeme → Bool
  | empty => true
  | set _ => false
  | seq a b => a.nullable && b.nullable
  | alt a b => a.nullable || b.nullable
  | star _ => true

/-- Sequence, dropping a leading empty pattern. -/
def andThen : Lexeme → Lexeme → Lexeme
  | empty, b => b
  | a, b => seq a b

/-- The patterns one of which the rest has to match after the code point `c`. -/
def derive (c : Nat) : Lexeme → List Lexeme
  | empty => []
  | set s => if s.contains c then [empty] else []
  | seq a b =>
    let left := (derive c a).map (·.andThen b)
    if a.nullable then left ++ derive c b else left
  | alt a b => derive c a ++ derive c b
  | star a => (derive c a).map (·.andThen (star a))

/-- The character sets that occur in the pattern. -/
def charSets : Lexeme → List CharSet
  | empty => []
  | set s => [s]
  | seq a b => a.charSets ++ b.charSets
  | alt a b => a.charSets ++ b.charSets
  | star a => a.charSets

/-- One given character. -/
def char (c : Char) : Lexeme := set (.ofRanges [(c.toNat, c.toNat)])

/-- One character of a range. -/
def range (lo hi : Char) : Lexeme := set (.ofRanges [(lo.toNat, hi.toNat)])

/-- One of the characters of a text. -/
def oneOf (s : String) : Lexeme := set (.ofRanges (s.toList.map fun c => (c.toNat, c.toNat)))

/-- One character that is not in a text. -/
def noneOf (s : String) : Lexeme := set (.outside (s.toList.map fun c => (c.toNat, c.toNat)))

/-- The patterns in sequence. -/
def all : List Lexeme → Lexeme
  | [] => empty
  | [a] => a
  | a :: rest => seq a (all rest)

/-- A given text. -/
def text (s : String) : Lexeme := all (s.toList.map char)

/-- Any one of the patterns. -/
def any : List Lexeme → Lexeme
  | [] => set (.ofRanges [])
  | [a] => a
  | a :: rest => alt a (any rest)

/-- The pattern or nothing. -/
def opt (a : Lexeme) : Lexeme := alt a empty

/-- One or more times. -/
def many1 (a : Lexeme) : Lexeme := seq a (star a)

/-- Exactly `n` times. -/
def times : Nat → Lexeme → Lexeme
  | 0, _ => empty
  | 1, a => a
  | n + 1, a => seq a (times n a)

/-- At most `n` times. -/
def upTo : Nat → Lexeme → Lexeme
  | 0, _ => empty
  | n + 1, a => opt (seq a (upTo n a))

/-- Reads on where one of the patterns `begun` has to match what follows, with `r` begun anew at every
character. -/
def occursFrom (r : Lexeme) (begun : List Lexeme) : List Char → Bool
  | [] => begun.any nullable
  | c :: rest =>
    begun.any nullable
      || occursFrom r (r :: (begun.flatMap (derive c.toNat)).eraseDups) rest

/-- Whether some piece of a text matches the pattern. -/
def occursIn (r : Lexeme) (text : List Char) : Bool := occursFrom r [r] text

end Lexeme

/-- A partition of the code points into classes: `starts` are the first code points of maximal
runs, in increasing order, and `classes` the class of each run. -/
structure Alphabet where
  starts : Array Nat
  classes : Array Nat
  /-- One code point of each class. -/
  samples : Array Nat
  /-- The class of each code point below 128. -/
  ascii : Array Nat
  deriving Inhabited

namespace Alphabet

/-- The run of a code point: the last start that is not above it. -/
def runOf (starts : Array Nat) (c : Nat) : Nat := Id.run do
  let mut lo := 0
  let mut hi := starts.size
  -- the run lies in [lo, hi); each round halves it
  for _ in [0:40] do
    if hi - lo ≤ 1 then break
    let mid := (lo + hi) / 2
    if starts.getD mid 0 ≤ c then lo := mid else hi := mid
  return lo

/-- The class of a code point. -/
def classOf (a : Alphabet) (c : Nat) : Nat :=
  if c < 128 then a.ascii.getD c 0 else a.classes.getD (runOf a.starts c) 0

/-- The number of classes. -/
def size (a : Alphabet) : Nat := a.samples.size

/-- The coarsest partition by which every listed set is a union of classes. -/
def ofSets (sets : Array CharSet) : Alphabet := Id.run do
  let mut cuts : Array Nat := #[0]
  for s in sets do
    for r in s.ranges do
      cuts := cuts.push r.1
      cuts := cuts.push (r.2 + 1)
  let sorted := cuts.toList.mergeSort.eraseReps.toArray
  let mut classes : Array Nat := #[]
  let mut samples : Array Nat := #[]
  let mut signatures : Array (List Bool) := #[]
  for start in sorted do
    let sig := sets.toList.map (·.contains start)
    match signatures.findIdx? (· == sig) with
    | some k => classes := classes.push k
    | none =>
      classes := classes.push signatures.size
      signatures := signatures.push sig
      samples := samples.push start
  let ascii := (Array.range 128).map fun c => classes.getD (runOf sorted c) 0
  return { starts := sorted, classes, samples, ascii }

end Alphabet

/-- The finite automaton of one pattern. State 0 is the start; `next` holds for each state and
class the following state, and a state with no successor at all is dead. -/
structure Recogniser where
  accepting : Array Bool
  next : Array (Array (Option Nat))
  deriving Inhabited

namespace Recogniser

/-- The states reached from `state` on a code point, as a set of patterns. -/
def successors (c : Nat) (state : List Lexeme) : List Lexeme :=
  (state.flatMap (Lexeme.derive c)).eraseDups

/-- The automaton of `r`, with at most `limit` states. -/
def ofLexeme (alphabet : Alphabet) (limit : Nat) (r : Lexeme) : Recogniser := Id.run do
  let mut states : Array (List Lexeme) := #[[r]]
  let mut next : Array (Array (Option Nat)) := #[]
  for i in [0:limit] do
    if h : i < states.size then
      let state := states[i]
      let mut row : Array (Option Nat) := #[]
      for c in alphabet.samples do
        match successors c state with
        | [] => row := row.push none
        | s =>
          match states.findIdx? (· == s) with
          | some k => row := row.push (some k)
          | none =>
            row := row.push (some states.size)
            states := states.push s
      next := next.push row
    else break
  return { accepting := states.map (·.any Lexeme.nullable), next }

/-- The state after a character of class `k`. -/
@[inline] def step (m : Recogniser) (state k : Nat) : Option Nat :=
  (m.next.getD state #[]).getD k none

/-- Whether the text read so far matches. -/
@[inline] def accepts (m : Recogniser) (state : Nat) : Bool := m.accepting.getD state false

end Recogniser

end Advisor.Grammar
