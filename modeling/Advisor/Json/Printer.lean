import Advisor.Json.Basic
import Advisor.Text.Digit

/-!
# Printing JSON

`Json.render` writes a value over several lines, two spaces to a level. The text is plain ASCII: all
other characters are written by the numbers of their UTF-16 units.
-/

namespace Advisor.Json

/-- A unit as an escape. -/
def escapeUnit (n : Nat) : List Char :=
  ['\\', 'u', Text.hexDigit (n / 4096 % 16), Text.hexDigit (n / 256 % 16),
    Text.hexDigit (n / 16 % 16), Text.hexDigit (n % 16)]

/-- A character inside a string. -/
def escapeChar (c : Char) : List Char :=
  match c with
  | '"' => ['\\', '"']
  | '\\' => ['\\', '\\']
  | '\n' => ['\\', 'n']
  | '\r' => ['\\', 'r']
  | '\t' => ['\\', 't']
  | '\x0c' => ['\\', 'f']
  | '\x08' => ['\\', 'b']
  | _ =>
    let n := c.toNat
    if 0x20 ≤ n && n ≤ 0x7e then [c]
    else if n < 0x10000 then escapeUnit n
    else
      let m := n - 0x10000
      escapeUnit (0xd800 + m / 0x400) ++ escapeUnit (0xdc00 + m % 0x400)

/-- A string in quotes. -/
def quote (s : String) : List Char := '"' :: s.toList.flatMap escapeChar ++ ['"']

/-- A new line at a level. -/
def newLine (level : Nat) : List Char := '\n' :: List.replicate (2 * level) ' '

mutual

/-- Writes a value whose lines stand at the given level. -/
def renderAt (level : Nat) : Json → List Char
  | null => "null".toList
  | bool true => "true".toList
  | bool false => "false".toList
  | int i => i.repr.toList
  | real literal => literal.toList
  | str s => quote s
  | list [] => ['[', ']']
  | list (v :: rest) =>
    '[' :: newLine (level + 1) ++ (renderAt (level + 1) v ++ (renderItems (level + 1) rest
      ++ (newLine level ++ [']'])))
  | object [] => ['{', '}']
  | object ((name, v) :: rest) =>
    '{' :: newLine (level + 1) ++ (quote name ++ (':' :: ' ' :: (renderAt (level + 1) v
      ++ (renderMembers (level + 1) rest ++ (newLine level ++ ['}'])))))

/-- Writes the items after the first. -/
def renderItems (level : Nat) : List Json → List Char
  | [] => []
  | v :: rest => ',' :: newLine level ++ (renderAt level v ++ renderItems level rest)

/-- Writes the members after the first. -/
def renderMembers (level : Nat) : List (String × Json) → List Char
  | [] => []
  | (name, v) :: rest =>
    ',' :: newLine level ++ (quote name ++ (':' :: ' ' :: (renderAt level v ++ renderMembers level rest)))

end

/-- Writes a value. -/
def render (j : Json) : String := String.ofList (renderAt 0 j)

end Advisor.Json
