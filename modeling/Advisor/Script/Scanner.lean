import Advisor.Parse.Lexer

/-!
# Tokens that depend on their surroundings

Some tokens of JavaScript cannot be told by a pattern: a semicolon that a line break stands for, the
text of a template, the question mark of a conditional, a comment in HTML style, and JSX text. The
scanner reads them character by character with a `Cursor`.
-/

namespace Advisor.Script

open Advisor.Grammar
open Advisor.Parse

/-! ## Numbers of the scanner tokens -/

def automaticSemicolon : Nat := 0
def templateChars : Nat := 1
def ternaryMark : Nat := 2
def htmlComment : Nat := 3
def logicalOr : Nat := 4
def escapeSequence : Nat := 5
def regexPattern : Nat := 6
def jsxText : Nat := 7

/-- A scanner at work: where it stands, where its token starts, and the end it has marked. -/
structure Cursor where
  pos : Span
  start : Span
  marked : Option Span

namespace Cursor

/-- The character at hand; 0 at the end of the text, as for a NUL. -/
def look (text : Text) (c : Cursor) : Char := text.getD c.pos.chars '\x00'

/-- Whether the text has ended. -/
def atEnd (text : Text) (c : Cursor) : Bool := text.size ≤ c.pos.chars

/-- Takes the character at hand into the token. -/
def take (text : Text) (c : Cursor) : Cursor :=
  if c.pos.chars < text.size then { c with pos := c.pos.push (c.look text) } else c

/-- Passes the character at hand: the token starts after it. -/
def skip (text : Text) (c : Cursor) : Cursor :=
  let next := c.take text
  { next with start := next.pos }

/-- Marks the end of the token here. -/
def mark (c : Cursor) : Cursor := { c with marked := some c.pos }

/-- The token that was scanned. It ends at the mark, and never before it starts. -/
def finish (c : Cursor) (token : Nat) : Scanned :=
  let stop := c.marked.getD c.pos
  { token, start := if stop.bytes < c.start.bytes then stop else c.start, stop }

end Cursor

/-- White space as the scanner sees it: no space that forbids a line break. -/
def isSpace (c : Char) : Bool :=
  let n := c.toNat
  (0x09 ≤ n && n ≤ 0x0d) || n == 0x20 || n == 0x1680 || (0x2000 ≤ n && n ≤ 0x2006)
    || (0x2008 ≤ n && n ≤ 0x200a) || n == 0x2028 || n == 0x2029 || n == 0x205f || n == 0x3000

def isDigit (c : Char) : Bool := '0' ≤ c && c ≤ '9'

/-- Letters, which make a longer word of `in` or `instanceof`. Beyond the first 128 characters
everything that can stand in a name counts as one. -/
def isLetter (c : Char) : Bool :=
  ('a' ≤ c && c ≤ 'z') || ('A' ≤ c && c ≤ 'Z') || (0xa0 < c.toNat && !isSpace c)

def isLineEnd (c : Char) : Bool := c == '\n' || c.toNat == 0x2028 || c.toNat == 0x2029

/-- Skips as long as `f` holds. -/
def skipWhile (text : Text) (f : Char → Bool) : Nat → Cursor → Cursor
  | 0, c => c
  | fuel + 1, c => if !c.atEnd text && f (c.look text) then skipWhile text f fuel (c.skip text) else c

/-- Takes as long as `f` holds. -/
def takeWhile (text : Text) (f : Char → Bool) : Nat → Cursor → Cursor
  | 0, c => c
  | fuel + 1, c => if !c.atEnd text && f (c.look text) then takeWhile text f fuel (c.take text) else c

/-- The text of a template up to a substitution, an escape or the closing quote. -/
def scanTemplate (text : Text) : Nat → Bool → Cursor → Option Cursor
  | 0, _, _ => none
  | fuel + 1, hasContent, c =>
    let c := c.mark
    match c.look text with
    | '\x60' | '\\' => if hasContent then some c else none
    | '\x00' => none
    | '$' =>
      let d := c.take text
      if d.look text == '\x7b' then (if hasContent then some d else none)
      else scanTemplate text fuel true d
    | _ => scanTemplate text fuel true (c.take text)

/-- What blanks and comments say about a semicolon: it is out of the question, it is still open, or
they end here. -/
inductive Blanks where
  | reject
  | noNewline
  | accept
  deriving BEq

/-- Skips the rest of a block comment; tells whether it was closed and whether it has a line break. -/
def skipBlock (text : Text) : Nat → Bool → Cursor → Cursor × Bool × Bool
  | 0, newline, c => (c, false, newline)
  | fuel + 1, newline, c =>
    match c.look text with
    | '\x00' => (c, false, newline)
    | '*' =>
      let d := c.skip text
      if d.look text == '/' then (d.skip text, true, newline) else skipBlock text fuel newline d
    | ch => skipBlock text fuel (newline || isLineEnd ch) (c.skip text)

/-- Skips blanks and comments. If `consume` is false, stops after a block comment that nothing further
follows at once. The flag tells whether a comment was seen. -/
def skipBlanks (text : Text) (consume : Bool) : Nat → Bool → Bool → Cursor → Cursor × Blanks × Bool
  | 0, _, seen, c => (c, .accept, seen)
  | fuel + 1, newline, seen, c =>
    let c := skipWhile text isSpace text.size c
    if c.look text == '/' then
      let c := c.skip text
      if c.look text == '/' then
        let c := skipWhile text (fun ch => ch != '\x00' && !isLineEnd ch) text.size (c.skip text)
        skipBlanks text consume fuel newline true c
      else if c.look text == '*' then
        let (c, closed, newline) := skipBlock text (text.size + 1) newline (c.skip text)
        if closed && c.look text != '/' && !consume then
          (c, if newline then .accept else .noNewline, true)
        else skipBlanks text consume fuel newline (seen || closed) c
      else (c, .reject, seen)
    else (c, .accept, seen)

/-- Whether the rest of a word `in` or `instanceof` is at hand: the cursor stands after the `i`. -/
def startsOperatorWord (text : Text) (c : Cursor) : Bool :=
  if c.look text != 'n' then false
  else
    let c := c.skip text
    if !isLetter (c.look text) then true
    else
      let rec spell (c : Cursor) : List Char → Option Cursor
        | [] => some c
        | ch :: rest => if c.look text == ch then spell (c.skip text) rest else none
      match spell c "stanceof".toList with
      | some c => !isLetter (c.look text)
      | none => false

/-- Whether a line break stands for a semicolon, given what the next line begins with. -/
def nextLineAllows (text : Text) (c : Cursor) : Bool :=
  match c.look text with
  | '\x60' | ',' | ':' | ';' | '*' | '%' | '>' | '<' | '=' | '[' | '(' | '?' | '^' | '|' | '&' | '/' => false
  | '.' => isDigit ((c.skip text).look text)
  | '+' => (c.skip text).look text == '+'
  | '-' => (c.skip text).look text == '-'
  | '!' => (c.skip text).look text != '='
  | 'i' => !startsOperatorWord text (c.skip text)
  | _ => true

/-- Looks for the line break, the brace or the end of the text that stands for a semicolon.
`afterComment` says that a comment with a line break in it does as well. Tells whether there is one,
where the scanner stopped, and whether it saw a comment. -/
def scanSemicolon (text : Text) (afterComment : Bool) : Nat → Bool → Cursor → Bool × Cursor × Bool
  | 0, seen, c => (false, c, seen)
  | fuel + 1, seen, c =>
    if c.look text == '\x00' then (true, c, seen)
    else
      let (c, verdict, seen) :=
        if c.look text == '/' then
          let (c, b, seen) := skipBlanks text false (text.size + 1) false seen c
          if b == .reject then (c, some false, seen)
          else if b == .accept && afterComment && c.look text != ',' && c.look text != '=' then
            (c, some true, seen)
          else (c, none, seen)
        else (c, none, seen)
      match verdict with
      | some v => (v, c, seen)
      | none =>
        let ch := c.look text
        if ch == '\x7d' then (true, c, seen)
        else if isLineEnd ch then
          let (c, b, seen) := skipBlanks text true (text.size + 1) false seen (c.skip text)
          if b == .reject then (false, c, seen) else (nextLineAllows text c, c, seen)
        else if !isSpace ch then (false, c, seen)
        else scanSemicolon text afterComment fuel seen (c.skip text)

/-- The question mark of a conditional, which is neither `??` nor, unless a digit follows, `?.`. -/
def scanTernary (text : Text) (c : Cursor) : Option Scanned :=
  let c := skipWhile text isSpace text.size c
  if c.look text == '?' then
    let c := c.take text
    if c.look text == '?' then none
    else
      let c := c.mark
      if c.look text == '.' then
        if isDigit ((c.take text).look text) then some ((c.take text).finish ternaryMark) else none
      else some (c.finish ternaryMark)
  else none

/-- A comment in HTML style, up to the end of the line. -/
def scanHtmlComment (text : Text) (c : Cursor) : Option Scanned :=
  let c := skipWhile text (fun ch => isSpace ch || isLineEnd ch) text.size c
  let rec spell (c : Cursor) : List Char → Option Cursor
    | [] => some c
    | ch :: rest => if c.look text == ch then spell (c.take text) rest else none
  let opened := match c.look text with
    | '<' => spell c "<!--".toList
    | '-' => spell c "-->".toList
    | _ => none
  opened.map fun c =>
    (takeWhile text (fun ch => ch != '\x00' && !isLineEnd ch) text.size c).mark.finish htmlComment

/-- JSX text up to a tag, a brace or a character reference. Blank text counts only if it does not
follow a line break; the flag tells whether anything counted. -/
def scanJsxText (text : Text) : Nat → Bool → Bool → Cursor → Cursor × Bool
  | 0, sawText, _, c => (c, sawText)
  | fuel + 1, sawText, atNewline, c =>
    match c.look text with
    | '\x00' | '<' | '>' | '\x7b' | '\x7d' | '&' => (c, sawText)
    | '\n' => scanJsxText text fuel sawText true (c.take text)
    | ch =>
      let atNewline := atNewline && isSpace ch
      scanJsxText text fuel (sawText || !atNewline) atNewline (c.take text)

/-- The scanner: tries the welcome tokens in a fixed order. Where both the text of a template and a
semicolon are welcome, the parser is recovering and gets none. -/
def scan (welcome : Bits) (text : Text) (origin : Span) : Option Scanned :=
  let c : Cursor := ⟨origin, origin, none⟩
  let has (t : Nat) : Bool := welcome.contains t
  if has templateChars then
    if has automaticSemicolon then none
    else (scanTemplate text (text.size + 1) false c).map (·.finish templateChars)
  else
    let (c, sawText) := if has jsxText then scanJsxText text (text.size + 1) false false c else (c, false)
    if sawText then some (c.finish jsxText)
    else if has automaticSemicolon then
      let (found, stopped, seen) := scanSemicolon text (!has logicalOr) (text.size + 1) false c.mark
      if found then some (stopped.finish automaticSemicolon)
      else if !seen && has ternaryMark && stopped.look text == '?' then scanTernary text stopped
      else none
    else if has ternaryMark then scanTernary text c
    else if has htmlComment && !has logicalOr && !has escapeSequence && !has regexPattern then
      scanHtmlComment text c
    else none

end Advisor.Script
