/-!
# Small sets of numbers

Sets of numbers below 192, held in three machine words: lookahead sets of tokens and sets of
character classes. Numbers outside that range are never members, so `insert` ignores them.
-/

namespace Advisor.Grammar

/-- A set of numbers below 192. -/
structure Bits where
  low : UInt64
  mid : UInt64
  high : UInt64
  deriving BEq, Hashable, Inhabited

namespace Bits

/-- The empty set. -/
def empty : Bits := ⟨0, 0, 0⟩

/-- Membership of `n`. -/
@[inline] def contains (s : Bits) (n : Nat) : Bool :=
  if n < 64 then (s.low >>> n.toUInt64) &&& 1 != 0
  else if n < 128 then (s.mid >>> (n - 64).toUInt64) &&& 1 != 0
  else if n < 192 then (s.high >>> (n - 128).toUInt64) &&& 1 != 0
  else false

/-- Adds `n`. -/
def insert (s : Bits) (n : Nat) : Bits :=
  if n < 64 then { s with low := s.low ||| ((1 : UInt64) <<< n.toUInt64) }
  else if n < 128 then { s with mid := s.mid ||| ((1 : UInt64) <<< (n - 64).toUInt64) }
  else if n < 192 then { s with high := s.high ||| ((1 : UInt64) <<< (n - 128).toUInt64) }
  else s

/-- The one-element set. -/
def singleton (n : Nat) : Bits := empty.insert n

/-- Union. -/
@[inline] def union (s t : Bits) : Bits := ⟨s.low ||| t.low, s.mid ||| t.mid, s.high ||| t.high⟩

/-- Intersection. -/
@[inline] def inter (s t : Bits) : Bits := ⟨s.low &&& t.low, s.mid &&& t.mid, s.high &&& t.high⟩

/-- Members of `s` that are not in `t`. -/
@[inline] def diff (s t : Bits) : Bits :=
  ⟨s.low &&& (~~~ t.low), s.mid &&& (~~~ t.mid), s.high &&& (~~~ t.high)⟩

/-- Whether the set has no members. -/
@[inline] def isEmpty (s : Bits) : Bool := s.low == 0 && s.mid == 0 && s.high == 0

/-- Whether every member of `s` is in `t`. -/
@[inline] def subset (s t : Bits) : Bool := (s.diff t).isEmpty

/-- Whether the sets share a member. -/
@[inline] def meets (s t : Bits) : Bool := !(s.inter t).isEmpty

/-- The members below `n`, in increasing order. -/
def toListBelow (s : Bits) (n : Nat) : List Nat := (List.range n).filter s.contains

/-- The members in increasing order. -/
def toList (s : Bits) : List Nat := s.toListBelow 192

/-- The set of the listed numbers. -/
def ofList (l : List Nat) : Bits := l.foldl insert empty

end Bits

end Advisor.Grammar
