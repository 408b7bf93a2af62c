import Advisor.Json.Basic
import Advisor.Text.Blank
import Advisor.Text.Digit

/-!
# Reading JSON

`Json.read` takes a whole text. It accepts `NaN`, `Infinity` and `-Infinity` beside the numbers of
the standard, refuses control characters in strings, and lets the last of several members of one
name win at the place of the first. Integers have at most `Text.maxDigits` digits. How deep lists
and objects may be nested is for the caller to say: it depends on the machine and on how much of it
is already in use.
-/

namespace Advisor.Json

/-- Why a text cannot be read. -/
inductive ReadError where
  | malformed
  | nestedTooDeep
  deriving DecidableEq

/-- What a reader returns: a value and the text behind it. -/
abbrev Read (α : Type) := Except ReadError (α × List Char)

/-- Blanks between tokens. -/
def isSpace (c : Char) : Bool := Text.isInlineBlank c || c == '\n' || c == '\r'

def skipSpace (cs : List Char) : List Char := cs.dropWhile isSpace

/-! ## Strings -/

/-- Four hexadecimal digits. -/
def hex4? (a b c d : Char) : Option Nat := do
  return (← Text.hexValue? a) * 4096 + (← Text.hexValue? b) * 256 + (← Text.hexValue? c) * 16
    + (← Text.hexValue? d)

/-- The first half of a pair that makes one character. -/
def isHighHalf (n : Nat) : Bool := 0xd800 ≤ n && n ≤ 0xdbff

/-- The second half of a pair that makes one character. -/
def isLowHalf (n : Nat) : Bool := 0xdc00 ≤ n && n ≤ 0xdfff

/-- The character of one unit. Half a pair alone is no character and becomes a replacement, so
strings that differ only in such halves are read as the same. -/
def ofUnit (n : Nat) : Char := if isHighHalf n || isLowHalf n then '�' else Char.ofNat n

/-- The character of a pair. -/
def ofPair (high low : Nat) : Char := Char.ofNat (0x10000 + (high - 0xd800) * 0x400 + (low - 0xdc00))

/-- The second half of a pair, if a text begins with its escape. -/
def lowHalf? : List Char → Option Nat
  | '\\' :: 'u' :: a :: b :: c :: d :: _ => (hex4? a b c d).filter isLowHalf
  | _ => none

/-- The character that a letter stands for after a backslash. -/
def escaped? : Char → Option Char
  | '"' => some '"'
  | '\\' => some '\\'
  | '/' => some '/'
  | 'b' => some '\x08'
  | 'f' => some '\x0c'
  | 'n' => some '\n'
  | 'r' => some '\r'
  | 't' => some '\t'
  | _ => none

/-- Reads the rest of a string after its opening quote. The characters read so far come in
reverse. -/
def readString (acc : List Char) : List Char → Read String
  | '"' :: rest => .ok (String.ofList acc.reverse, rest)
  | '\\' :: 'u' :: a :: b :: c :: d :: rest =>
    match hex4? a b c d with
    | none => .error .malformed
    | some n =>
      match if isHighHalf n then lowHalf? rest else none with
      | some m => readString (ofPair n m :: acc) (rest.drop 6)
      | none => readString (ofUnit n :: acc) rest
  | '\\' :: c :: rest =>
    match escaped? c with
    | some e => readString (e :: acc) rest
    | none => .error .malformed
  | c :: rest => if c.toNat < 0x20 || c == '\\' then .error .malformed else readString (c :: acc) rest
  | [] => .error .malformed
termination_by cs => cs.length
decreasing_by all_goals simp only [List.length_cons, List.length_drop]; omega

/-! ## Numbers -/

/-- A fraction: a point and at least one digit. -/
def fraction (cs : List Char) : List Char × List Char :=
  match cs with
  | '.' :: rest =>
    match rest.span Text.isAsciiDigit with
    | ([], _) => ([], cs)
    | (digits, rest) => ('.' :: digits, rest)
  | _ => ([], cs)

/-- An exponent: a mark, perhaps a sign, and at least one digit. -/
def exponent (cs : List Char) : List Char × List Char :=
  let signed (mark : Char) (sign rest : List Char) : List Char × List Char :=
    match rest.span Text.isAsciiDigit with
    | ([], _) => ([], cs)
    | (digits, rest) => (mark :: sign ++ digits, rest)
  match cs with
  | c :: rest =>
    if c == 'e' || c == 'E' then
      match rest with
      | '+' :: rest => signed c ['+'] rest
      | '-' :: rest => signed c ['-'] rest
      | _ => signed c [] rest
    else ([], cs)
  | [] => ([], cs)

/-- Reads a number that has no sign. No zero stands in front of another digit. -/
def readNumber (negative : Bool) (cs : List Char) : Read Json :=
  let (whole, rest) :=
    match cs with
    | '0' :: rest => (['0'], rest)
    | _ => cs.span Text.isAsciiDigit
  if whole.isEmpty then .error .malformed
  else
    let (frac, rest) := fraction rest
    let (exp, rest) := exponent rest
    if frac.isEmpty && exp.isEmpty then
      if whole.length ≤ Text.maxDigits then
        let n : Int := Text.ofDigits whole
        .ok (.int (if negative then -n else n), rest)
      else .error .malformed
    else
      let sign := if negative then ['-'] else []
      .ok (.real (String.ofList (sign ++ whole ++ frac ++ exp)), rest)

/-! ## Values -/

/-- Reads a value that is neither list nor object. -/
def readScalar (cs : List Char) : Read Json :=
  match cs with
  | '"' :: rest => (readString [] rest).map fun (s, rest) => (.str s, rest)
  | '-' :: rest =>
    match Text.word? "Infinity" rest with
    | some rest => .ok (.real "-Infinity", rest)
    | none => readNumber true rest
  | _ =>
    match Text.word? "null" cs, Text.word? "true" cs, Text.word? "false" cs, Text.word? "NaN" cs,
      Text.word? "Infinity" cs with
    | some rest, _, _, _, _ => .ok (.null, rest)
    | _, some rest, _, _, _ => .ok (.bool true, rest)
    | _, _, some rest, _, _ => .ok (.bool false, rest)
    | _, _, _, some rest, _ => .ok (.real "NaN", rest)
    | _, _, _, _, some rest => .ok (.real "Infinity", rest)
    | _, _, _, _, _ => readNumber false cs

mutual

/-- Reads a value. Each step is paid for out of `fuel`, of which the length of the text is enough;
`levels` says how much deeper lists and objects may go. -/
def readValue (fuel levels : Nat) (cs : List Char) : Read Json :=
  match fuel with
  | 0 => .error .malformed
  | fuel + 1 =>
    match cs with
    | '[' :: rest =>
      match levels with
      | 0 => .error .nestedTooDeep
      | levels + 1 =>
        match skipSpace rest with
        | ']' :: rest => .ok (.list [], rest)
        | rest => readItems fuel levels [] rest
    | '{' :: rest =>
      match levels with
      | 0 => .error .nestedTooDeep
      | levels + 1 =>
        match skipSpace rest with
        | '}' :: rest => .ok (.object [], rest)
        | rest => readMembers fuel levels [] rest
    | _ => readScalar cs

/-- Reads the items of a list from the first that is left on; those read so far come in reverse. -/
def readItems (fuel levels : Nat) (acc : List Json) (cs : List Char) : Read Json :=
  match fuel with
  | 0 => .error .malformed
  | fuel + 1 =>
    match readValue fuel levels cs with
    | .error e => .error e
    | .ok (v, rest) =>
      match skipSpace rest with
      | ']' :: rest => .ok (.list (v :: acc).reverse, rest)
      | ',' :: rest => readItems fuel levels (v :: acc) (skipSpace rest)
      | _ => .error .malformed

/-- Reads the members of an object from the first that is left on. Those read so far come as they
were written, in reverse. -/
def readMembers (fuel levels : Nat) (acc : List (String × Json)) (cs : List Char) : Read Json :=
  match fuel with
  | 0 => .error .malformed
  | fuel + 1 =>
    match cs with
    | '"' :: rest =>
      match readString [] rest with
      | .error e => .error e
      | .ok (name, rest) =>
        match skipSpace rest with
        | ':' :: rest =>
          match readValue fuel levels (skipSpace rest) with
          | .error e => .error e
          | .ok (v, rest) =>
            match skipSpace rest with
            | '}' :: rest =>
              .ok (.object (((name, v) :: acc).reverse.foldl (fun ms m => put ms m.1 m.2) []), rest)
            | ',' :: rest => readMembers fuel levels ((name, v) :: acc) (skipSpace rest)
            | _ => .error .malformed
        | _ => .error .malformed
    | _ => .error .malformed

end

/-- Reads a text that holds one value and blanks around it. Lists and objects are nested at most
`depth` deep. -/
def read (depth : Nat) (text : String) : Except ReadError Json :=
  let cs := text.toList
  match readValue (2 * cs.length + 1) depth (skipSpace cs) with
  | .error e => .error e
  | .ok (v, rest) => if (skipSpace rest).isEmpty then .ok v else .error .malformed

end Advisor.Json
