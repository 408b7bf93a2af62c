/-!
# UTF-8

Reading bytes as text. `decode` never fails: where the bytes are no UTF-8, the longest beginning of a
character that stands there is read as one replacement character. `decodeStrict` refuses such bytes.
-/

namespace Advisor.Text

/-- What stands for bytes that are no text. -/
def replacement : Char := '�'

/-- A byte that continues a character. -/
def isTail (b : UInt8) : Bool := 0x80 ≤ b && b ≤ 0xbf

/-- How a character begins: the number of bytes after the first, and the range of the second one. -/
def leadShape (b : UInt8) : Option (Nat × UInt8 × UInt8) :=
  if b < 0x80 then some (0, 0, 0)
  else if 0xc2 ≤ b && b ≤ 0xdf then some (1, 0x80, 0xbf)
  else if b == 0xe0 then some (2, 0xa0, 0xbf)
  else if b == 0xed then some (2, 0x80, 0x9f)
  else if 0xe1 ≤ b && b ≤ 0xef then some (2, 0x80, 0xbf)
  else if b == 0xf0 then some (3, 0x90, 0xbf)
  else if 0xf1 ≤ b && b ≤ 0xf3 then some (3, 0x80, 0xbf)
  else if b == 0xf4 then some (3, 0x80, 0x8f)
  else none

/-- The bits that a first byte contributes. -/
def leadBits (b : UInt8) (tails : Nat) : Nat :=
  match tails with
  | 0 => b.toNat
  | 1 => b.toNat % 0x20
  | 2 => b.toNat % 0x10
  | _ => b.toNat % 0x08

/-- Reads up to `n` continuing bytes: their number and the value so far. -/
def readTails : Nat → Nat → List UInt8 → Nat × Nat
  | 0, value, _ => (0, value)
  | n + 1, value, b :: rest =>
    if isTail b then
      let (k, v) := readTails n (value * 64 + b.toNat % 64) rest
      (k + 1, v)
    else (0, value)
  | _ + 1, value, [] => (0, value)

/-- Reads the character that `b` begins: the character, if it is complete, and the number of bytes it
or its longest beginning takes after `b`. -/
def readChar (b : UInt8) (rest : List UInt8) : Option Char × Nat :=
  match leadShape b with
  | none => (none, 0)
  | some (0, _, _) => (some (Char.ofNat b.toNat), 0)
  | some (tails, lo, hi) =>
    match rest with
    | second :: _ =>
      if lo ≤ second && second ≤ hi then
        let (k, value) := readTails tails (leadBits b tails) rest
        if k == tails then (some (Char.ofNat value), k) else (none, k)
      else (none, 0)
    | [] => (none, 0)

/-- Reads bytes as text, with replacement characters for what is none. -/
def decode (bytes : List UInt8) : List Char := go bytes []
where
  go : List UInt8 → List Char → List Char
    | [], acc => acc.reverse
    | b :: rest, acc =>
      match readChar b rest with
      | (c, k) => go (rest.drop k) (c.getD replacement :: acc)
  termination_by bs => bs.length
  decreasing_by simp only [List.length_cons, List.length_drop]; omega

/-- Reads bytes that must be text. -/
def decodeStrict (bytes : List UInt8) : Option (List Char) := go bytes []
where
  go : List UInt8 → List Char → Option (List Char)
    | [], acc => some acc.reverse
    | b :: rest, acc =>
      match readChar b rest with
      | (some c, k) => go (rest.drop k) (c :: acc)
      | (none, _) => none
  termination_by bs => bs.length
  decreasing_by simp only [List.length_cons, List.length_drop]; omega

/-- Makes every line end a line feed: a carriage return, alone or before a line feed, becomes one. -/
def unifyLineEnds (cs : List Char) : List Char := go cs []
where
  go : List Char → List Char → List Char
    | [], acc => acc.reverse
    | '\r' :: '\n' :: rest, acc => go rest ('\n' :: acc)
    | c :: rest, acc => go rest ((if c = '\r' then '\n' else c) :: acc)

/-- The bytes from `lo` up to `hi`, where a negative bound counts from the end and bounds outside the
bytes are moved to their ends. -/
def sliceBytes (bytes : ByteArray) (lo hi : Int) : ByteArray :=
  let clamp (i : Int) : Nat :=
    let j := if i < 0 then i + bytes.size else i
    min j.toNat bytes.size
  bytes.extract (clamp lo) (clamp hi)

end Advisor.Text
