import Advisor.Text.Blank
import Advisor.Text.Digit

/-!
# Integers in texts

A whole text as an integer: blanks around it, perhaps a sign, and decimal digits of any script, with
single underscores between them. There are at most `maxDigits` digits.
-/

namespace Advisor.Text

/-- Digit values with single underscores between them, from one that has just been read on. -/
def digitsAfter (acc : List Nat) : List Char → Option (List Nat)
  | [] => some acc.reverse
  | '_' :: c :: rest =>
    match digitValue? c with
    | some d => digitsAfter (d :: acc) rest
    | none => none
  | c :: rest =>
    match digitValue? c with
    | some d => digitsAfter (d :: acc) rest
    | none => none

/-- Digit values with single underscores between them; there is at least one. -/
def digitValues? : List Char → Option (List Nat)
  | [] => none
  | c :: rest =>
    match digitValue? c with
    | some d => digitsAfter [d] rest
    | none => none

/-- Reads a text as an integer. -/
def readInteger? (s : String) : Option Int :=
  let (negative, cs) := match strip s.toList with
    | '-' :: rest => (true, rest)
    | '+' :: rest => (false, rest)
    | cs => (false, cs)
  match digitValues? cs with
  | some ds =>
    if ds.length ≤ maxDigits then
      let n : Int := inBase 10 id ds
      some (if negative then -n else n)
    else none
  | none => none

end Advisor.Text
