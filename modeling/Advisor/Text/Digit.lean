/-!
# Digits

The decimal digits of all scripts, which come in runs of ten, of which `digitZeros` lists the zeros;
and the hexadecimal digits, which are ASCII characters. A number is read from the values of its
digits by `inBase`. Readers take at most `maxDigits` decimal digits for one number.
-/

namespace Advisor.Text

/-- The zeros of the scripts that have decimal digits of their own. -/
def digitZeros : List Nat := [
  0x30, 0x660, 0x6f0, 0x7c0, 0x966, 0x9e6, 0xa66, 0xae6, 0xb66, 0xbe6, 0xc66, 0xce6, 0xd66, 0xde6,
  0xe50, 0xed0, 0xf20, 0x1040, 0x1090, 0x17e0, 0x1810, 0x1946, 0x19d0, 0x1a80, 0x1a90, 0x1b50,
  0x1bb0, 0x1c40, 0x1c50, 0xa620, 0xa8d0, 0xa900, 0xa9d0, 0xa9f0, 0xaa50, 0xabf0, 0xff10, 0x104a0,
  0x10d30, 0x11066, 0x110f0, 0x11136, 0x111d0, 0x112f0, 0x11450, 0x114d0, 0x11650, 0x116c0, 0x11730,
  0x118e0, 0x11950, 0x11c50, 0x11d50, 0x11da0, 0x16a60, 0x16ac0, 0x16b50, 0x1d7ce, 0x1d7d8, 0x1d7e2,
  0x1d7ec, 0x1d7f6, 0x1e140, 0x1e2f0, 0x1e950, 0x1fbf0]

/-- The value of a decimal digit of any script. -/
def digitValue? (c : Char) : Option Nat :=
  (digitZeros.find? fun z => z ≤ c.toNat && c.toNat < z + 10).map fun z => c.toNat - z

/-- Whether a character is a decimal digit of some script. -/
def isDecimalDigit (c : Char) : Bool := (digitValue? c).isSome

/-- Whether a character is one of `0` to `9`. -/
def isAsciiDigit (c : Char) : Bool := '0' ≤ c && c ≤ '9'

example : digitZeros.length = 66 := by decide

/-! ## Numbers -/

/-- The longest number that is read. -/
def maxDigits : Nat := 4300

/-- The number whose digits have the given values in a base. -/
def inBase {α : Type} (base : Nat) (value : α → Nat) (ds : List α) : Nat :=
  ds.foldl (fun n d => n * base + value d) 0

/-- The number with the given digits, each of `0` to `9`. -/
def ofDigits (ds : List Char) : Nat := inBase 10 (fun c => c.toNat - '0'.toNat) ds

/-! ## Hexadecimal digits -/

/-- The value of a hexadecimal digit. -/
def hexValue? (c : Char) : Option Nat :=
  if '0' ≤ c && c ≤ '9' then some (c.toNat - '0'.toNat)
  else if 'a' ≤ c && c ≤ 'f' then some (c.toNat - 'a'.toNat + 10)
  else if 'A' ≤ c && c ≤ 'F' then some (c.toNat - 'A'.toNat + 10)
  else none

/-- The digit of a number below 16. -/
def hexDigit (n : Nat) : Char := if n < 10 then Char.ofNat (0x30 + n) else Char.ofNat (0x57 + n)

end Advisor.Text
