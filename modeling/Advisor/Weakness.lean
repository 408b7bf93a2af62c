import Advisor.Finding
import Advisor.Grammar.Lexeme
import Advisor.Text.Blank

/-!
# Weaknesses in code

Rules that look for weak authentication and for secrets in the text. Every rule is a pattern that is
sought in one line at a time, so that nothing that is spread over several lines is ever reported.
-/

namespace Advisor

open Advisor.Grammar

/-- A rule with the pattern that it seeks. -/
structure WeaknessRule where
  id : String
  title : String
  pattern : Lexeme
  severity : String
  description : String

namespace Weakness

/-! ## Pieces of patterns -/

/-- A letter in either case; everything else stands for itself. -/
def caseless (c : Char) : Lexeme :=
  .set (.ofRanges [(c.toLower.toNat, c.toLower.toNat), (c.toUpper.toNat, c.toUpper.toNat)])

/-- A word in any mixture of cases. -/
def caselessText (s : String) : Lexeme := .all (s.toList.map caseless)

def quote : Lexeme := .oneOf "'\""

/-- The white space of Unicode, as `Text.isBlank` has it. -/
def blank : Lexeme :=
  .set (.ofRanges [(0x09, 0x0d), (0x1c, 0x20), (0x85, 0x85), (0xa0, 0xa0), (0x1680, 0x1680),
    (0x2000, 0x200a), (0x2028, 0x2029), (0x202f, 0x202f), (0x205f, 0x205f), (0x3000, 0x3000)])

/-- The white space of scripts. -/
def scriptBlank : Lexeme :=
  .set (.ofRanges [(0x09, 0x0d), (0x20, 0x20), (0xa0, 0xa0), (0x1680, 0x1680), (0x2000, 0x200a),
    (0x2028, 0x2029), (0x202f, 0x202f), (0x205f, 0x205f), (0x3000, 0x3000), (0xfeff, 0xfeff)])

def wordRanges : List (Nat × Nat) := [(0x30, 0x39), (0x41, 0x5a), (0x5f, 0x5f), (0x61, 0x7a)]

/-- Letters, digits and the underscore. -/
def wordChar : Lexeme := .set (.ofRanges wordRanges)

/-- The same and the dash. -/
def keyChar : Lexeme := .set (.ofRanges ((0x2d, 0x2d) :: wordRanges))

/-- At least `n` times. -/
def atLeast (n : Nat) (r : Lexeme) : Lexeme := .seq (.times n r) (.star r)

/-! ## The rules -/

def weakHash : Lexeme :=
  .all [caselessText "crypto.createHash(", quote, .alt (caselessText "md5") (caselessText "sha1"), quote,
    .char ')']

def inlineSecret : Lexeme :=
  .all [.text "jwt.sign", .star blank, .char '(', .many1 (.noneOf ","), .char ',', .star blank, quote,
    .many1 wordChar, quote, .char ')']

def basicHeader : Lexeme :=
  .all [.text "Authorization:", .star blank, quote, .text "Basic", .many1 blank]

def weakRandom : Lexeme := .text "Math.random()"

def keyLiteral : Lexeme :=
  .all [.any (["api_key", "apikey", "secret_key", "auth_token"].map caselessText), .star scriptBlank,
    .oneOf ":=", .star scriptBlank, quote, atLeast 20 keyChar, quote]

/-- The rules, in the order in which they report within a line. -/
def rules : List WeaknessRule := [
  { id := "SG101"
    title := "Weak Hashing Algorithm"
    pattern := weakHash
    severity := "Medium"
    description := "MD5 and SHA1 are considered weak hashing algorithms. Use SHA256 or better." },
  { id := "SG102"
    title := "Hardcoded JWT Secret"
    pattern := inlineSecret
    severity := "High"
    description := "Hardcoded JWT secrets are a major security risk. Use environment variables." },
  { id := "SG103"
    title := "Basic Authentication"
    pattern := basicHeader
    severity := "Low"
    description :=
      "Basic Authentication transmits credentials in base64. Ensure this is used over HTTPS only." },
  { id := "SG104"
    title := "Insecure Randomness"
    pattern := weakRandom
    severity := "Low"
    description := "Math.random() is not cryptographically secure. "
      ++ "Use crypto.randomBytes() for security-critical values." },
  { id := "SG105"
    title := "Hardcoded API Key"
    pattern := keyLiteral
    severity := "Critical"
    description := "Potential hardcoded API key or secret detected." }]

/-! ## Searching -/

/-- What a rule reports in a line. -/
def report (rule : WeaknessRule) (line : Nat) : Finding :=
  { title := rule.title, severity := rule.severity, description := rule.description
    place := ⟨line, 0⟩, rule := rule.id }

/-- What the rules report in one line, by some test of a line. -/
def inLine (found : WeaknessRule → List Char → Bool) (rules : List WeaknessRule) (number : Nat)
    (line : List Char) : List Finding :=
  (rules.filter (found · line)).map (report · number)

/-- What the rules report in a text, by some test of a line. -/
def findingsBy (found : WeaknessRule → List Char → Bool) (rules : List WeaknessRule)
    (source : String) : List Finding :=
  ((Text.splitOn '\n' source.toList).zipIdx 1).flatMap fun (line, number) =>
    inLine found rules number line

/-- What the rules report in a text: a rule is tested by its pattern. -/
def findings (rules : List WeaknessRule) (source : String) : List Finding :=
  findingsBy (fun r line => r.pattern.occursIn line) rules source

end Weakness

end Advisor
