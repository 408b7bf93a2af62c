import Advisor.Text.Blank
import Advisor.Text.Case
import Advisor.Text.Sorted

/-!
# Suppression of findings

A comment in a line can suppress the findings of that line: all of them, or those of the rules that
it names. `directive?` reads the first such comment of a line, and `Suppression.ofSource` collects
those of a text.
-/

namespace Advisor

/-- Which rules a line suppresses. -/
inductive Suppression where
  | all
  | only (rules : List String)
  deriving DecidableEq, Inhabited

namespace Suppression

/-- The words that open a directive. -/
def marker : List Char := "snipguard:ignore".toList

/-- Whether a character is the small letter `letter` without regard to case. The dotless i and the
long s are cases of i and s. -/
def isLetter (letter c : Char) : Bool :=
  let small := Text.foldChar c
  small == letter || (letter == 'i' && small == 'ı') || (letter == 's' && small == 'ſ')

/-- Takes a word off the front of a text without regard to case. -/
def dropWord : List Char → List Char → Option (List Char)
  | [], cs => some cs
  | l :: ls, c :: cs => if isLetter l c then dropWord ls cs else none
  | _ :: _, [] => none

/-- The text behind the first marker. -/
def afterMarker : List Char → Option (List Char)
  | [] => dropWord marker []
  | c :: rest =>
    match dropWord marker (c :: rest) with
    | some after => some after
    | none => afterMarker rest

/-- Whether a character may stand in the list of rules. -/
def isListChar (c : Char) : Bool :=
  let small := Text.foldChar c
  ('a' ≤ small && small ≤ 'z') || ('0' ≤ small && small ≤ '9') || small == '_' || small == ','
    || small == ' ' || small == '-' || small == 'ı' || small == 'ſ'

/-- The names in a list of rules: stripped, in capitals, without the empty ones. -/
def names (list : List Char) : List String :=
  ((Text.splitOn ',' list).map Text.strip).filterMap fun n =>
    if n.isEmpty then none else some (String.ofList (Text.upper n))

/-- What the text behind a marker asks for. -/
def ofTail (tail : List Char) : Suppression :=
  let body := tail.dropWhile Text.isBlank
  if body.length = tail.length then .all
  else match names (body.takeWhile isListChar) with
    | [] => .all
    | ns => .only ns

/-- What a line asks for. -/
def directive? (line : List Char) : Option Suppression := (afterMarker line).map ofTail

/-- What the lines of a text ask for, with their numbers. -/
def ofSource (source : String) : List (Nat × Suppression) :=
  ((Text.splitOn '\n' source.toList).zipIdx 1).filterMap fun (line, number) =>
    (directive? line).map (number, ·)

/-- Whether a rule is suppressed. -/
def covers : Suppression → String → Bool
  | all, _ => true
  | only rules, rule => rules.contains rule

/-- The names of the suppressed rules in order, each once; a star for all of them. -/
def listed : Suppression → List String
  | all => ["*"]
  | only rules => Text.distinct rules

end Suppression

end Advisor
