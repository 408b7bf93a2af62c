import Advisor.Finding
import Advisor.SyntaxTree
import Advisor.Text.Blank
import Advisor.Text.Digit
import Advisor.Text.Utf8

/-!
# Diagnosis of a parse tree

Turns a tree into a `Validation`: the first error only, in the words in which such errors are usually
put, with a suggestion how to mend it. Markup inside code is refused unless the caller allows it.
-/

namespace Advisor

/-- What is wrong with a text. -/
inductive Problem where
  | openString
  | nameAfterNumber
  /-- A token that the text lacks. -/
  | expected (kind : String)
  /-- A token that does not fit; empty if nothing can be shown. -/
  | unexpected (token : String)
  deriving DecidableEq

namespace Problem

/-- The message for a problem. -/
def message : Problem → String
  | openString => "Unterminated string constant"
  | nameAfterNumber => "Identifier directly after number"
  | expected kind => "Unexpected token, expected \"" ++ kind ++ "\""
  | unexpected token => if token.isEmpty then "Unexpected token" else "Unexpected token \"" ++ token ++ "\""

end Problem

namespace Diagnosis

/-! ## Messages -/

/-- Whether `needle` occurs in a text. -/
def occursIn (needle : List Char) : List Char → Bool
  | [] => needle.isEmpty
  | c :: rest => needle.isPrefixOf (c :: rest) || occursIn needle rest

/-- Suggestions, each with the words by which its messages are known. The first that fits is taken. -/
def suggestions : List (String × String) := [
  ("Unexpected token",
    "You might be missing a bracket, parenthesis, or semicolon. Check the code around the error line."),
  ("Identifier directly after number", "Variable names cannot start with numbers."),
  ("Unterminated string", "You have an unclosed string literal. Add a quote.")]

/-- How to mend what a message complains about. -/
def suggestFix (message : String) : String :=
  match suggestions.find? fun (needle, _) => occursIn needle.toList message.toList with
  | some (_, suggestion) => suggestion
  | none => "Check your syntax."

/-- Reads `)`, digits, `:`, digits and `(` backwards: what stands in front of them. -/
def dropLocation (reversed : List Char) : Option (List Char) :=
  match reversed with
  | ')' :: rest =>
    let afterColumn := rest.dropWhile Text.isDecimalDigit
    if afterColumn.length = rest.length then none
    else match afterColumn with
      | ':' :: rest =>
        let afterLine := rest.dropWhile Text.isDecimalDigit
        if afterLine.length = rest.length then none
        else match afterLine with
          | '(' :: rest => some rest
          | _ => none
      | _ => none
  | _ => none

/-- Removes a location such as `(12:3)` from the end of a message, together with the blanks in front of
it. One line feed may follow the location, and stays. -/
def stripLocation (message : List Char) : List Char :=
  let cut (reversed : List Char) : Option (List Char) :=
    (dropLocation reversed).map fun front => (front.dropWhile Text.isBlank).reverse
  match message.reverse with
  | '\n' :: rest => ((cut rest).map (· ++ ['\n'])).getD message
  | all => (cut all).getD message

/-! ## The place of an error -/

/-- The node that an error node is reported at, with a bound on the number of steps. An error inside
comes before the one around it; without one, the last token of the first row is the one at which the
parser stumbled. -/
def positionWithin : Nat → Spot → Spot
  | 0, s => s
  | steps + 1, s =>
    if s.kind == "ERROR" then
      match s.children.filter fun c => c.isError || c.label.hasError with
      | inner :: _ =>
        positionWithin steps (if inner.isError then inner else inner.firstError.getD inner)
      | [] =>
        let tokens := s.leaves.filter fun t => !t.label.missing && t.label.row == s.label.row
        tokens.getLast?.getD s
    else s

/-- The node that an error node is reported at. -/
def position (s : Spot) : Spot := positionWithin s.preorder.length s

/-! ## The kind of an error -/

/-- Whether the error is about a string that does not end. -/
def hasOpenString (s : Spot) : Bool :=
  s.around.contains "string" || s.preorder.any fun d =>
    let parent := d.around.head?
    ((d.kind == "\"" || d.kind == "'") && (d.label.missing || parent != some "string"))
      || ((d.kind == "string_fragment" || d.kind == "escape_sequence") && parent == some "ERROR")

/-- Whether a node is a name. -/
def isName (s : Spot) : Bool :=
  s.kind == "identifier" || s.kind == "property_identifier" || s.kind == "shorthand_property_identifier"

/-- Whether `root` has a number with a name right behind it, one of them within the node `s`. -/
def hasNameAfterNumber (s root : Spot) : Bool :=
  let within (n : Nat) : Bool := s.label.startByte ≤ n && n ≤ s.label.endByte
  let leaves := root.leaves
  (leaves.zip leaves.tail).any fun (number, name) =>
    number.kind == "number" && isName name && number.label.endByte == name.label.startByte
      && (within name.label.startByte || within number.label.startByte)

/-- How much of a token is shown. -/
def previewLength : Nat := 20

/-- A token as a message shows it: the beginning of its first line. -/
def preview (source : ByteArray) (token : NodeLabel) : String :=
  let bytes := Text.sliceBytes source token.startByte token.endByte
  String.ofList ((Text.firstLine (Text.strip (Text.decode bytes.toList))).take previewLength)

/-- What is wrong at an error node of `root`. -/
def problem (s root : Spot) (source : ByteArray) : Problem :=
  if hasOpenString s then .openString
  else if hasNameAfterNumber s root then .nameAfterNumber
  else if s.label.missing then .expected s.kind
  else .unexpected (preview source (position s).label)

/-! ## The verdict -/

/-- The diagnostic at a node. Columns count characters, where those of a node count bytes. -/
def rejected (source : ByteArray) (s : NodeLabel) (p : Problem) : Validation :=
  let lineStart : Int := (s.startByte : Int) - s.byteColumn
  let before := Text.decode (Text.sliceBytes source lineStart s.startByte).toList
  let message := String.ofList (stripLocation p.message.toList)
  { valid := false
    errors := [{ place := ⟨s.row + 1, before.length⟩, message, suggestion := suggestFix message
                 title := "SyntaxError" }] }

/-- Whether a node is markup. -/
def isMarkup (s : Spot) : Bool := "jsx_".toList.isPrefixOf s.kind.toList

/-- The verdict on a text with the given parse tree. -/
def judge (source : ByteArray) (tree : SyntaxTree) (markup : Bool) : Validation :=
  let root := Spot.root tree
  let error := if tree.label.hasError then root.firstError else none
  let markupSpot := if markup then none else root.find? isMarkup
  match markupSpot, error with
  | some m, none => rejected source m.label (.unexpected "<")
  | some m, some e =>
    if m.label.startByte < e.label.startByte then rejected source m.label (.unexpected "<")
    else rejected source (position e).label (problem e root source)
  | none, some e => rejected source (position e).label (problem e root source)
  | none, none =>
    if tree.label.hasError then rejected source tree.label (.unexpected "") else .accepted

/-- The verdict on a text, for a given way to parse texts. The empty text is well-formed. -/
def validate (parse : String → SyntaxTree) (code : String) (markup : Bool) : Validation :=
  if code.isEmpty then .accepted else judge code.toUTF8 (parse code) markup

end Diagnosis

end Advisor
