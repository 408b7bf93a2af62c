import Advisor.Text.Blank
import Advisor.Text.Digit

/-!
# Versions

Two ways to order the versions of packages. The lexical order compares them as texts. The semantic
order reads them as release numbers with marks for pre-, post- and development releases and for
local builds, and compares their `Version.key`s: versions stand in the lexicographic order of these.
A text that is no version is neither below nor above anything in the semantic order.

The letters of a version are the ASCII letters, small or capital. A letter of another script is none
here, also one that some tables fold into an ASCII letter (the long s, the Kelvin sign, the Turkish
i with and without its dot).
-/

namespace Advisor

/-- How versions are ordered. -/
inductive VersionScheme where
  | lexical
  | semantic
  deriving DecidableEq, Inhabited

/-- The scheme of a name. Every other name stands for the lexical order. -/
def VersionScheme.ofName (name : String) : VersionScheme :=
  if name = "semantic" then .semantic else .lexical

/-- The stages before a release. -/
inductive Stage where
  | alpha
  | beta
  | candidate
  deriving DecidableEq

def Stage.rank : Stage → Nat
  | alpha => 1
  | beta => 2
  | candidate => 3

/-- A part of the name of a local build. -/
inductive LocalPart where
  | number (n : Nat)
  | word (letters : List Char)
  deriving DecidableEq

/-- A version. -/
structure Version where
  epoch : Nat
  release : List Nat
  pre : Option (Stage × Nat)
  post : Option Nat
  dev : Option Nat
  locals : List LocalPart
  deriving DecidableEq

namespace Version

/-- Why a text is not read as a version. -/
inductive ReadError where
  | malformed
  /-- One of its numbers has too many digits. -/
  | numberTooLong
  deriving DecidableEq

/-! ## The order -/

/-- A list without the zeros at its end. -/
def dropTrailingZeros (ns : List Nat) : List Nat := (ns.reverse.dropWhile (· == 0)).reverse

/-- Before all stages comes a bare development release, behind all the release itself. -/
def preKey (v : Version) : List Nat :=
  match v.pre, v.post, v.dev with
  | some (stage, n), _, _ => [stage.rank, n]
  | none, none, some _ => [0]
  | none, _, _ => [4]

def postKey (v : Version) : List Nat :=
  match v.post with
  | none => [0]
  | some n => [1, n]

/-- A development release comes before what it leads to. -/
def devKey (v : Version) : List Nat :=
  match v.dev with
  | some n => [0, n]
  | none => [1]

/-- Words come before numbers. -/
def localKey : LocalPart → List Nat
  | .number n => [1, n]
  | .word letters => 0 :: letters.map Char.toNat

/-- What versions are compared by. Zeros at the end of the release make no difference. -/
def key (v : Version) : List (List (List Nat)) :=
  [[[v.epoch]], [dropTrailingZeros v.release], [v.preKey], [v.postKey], [v.devKey],
    v.locals.map localKey]

/-- The semantic order. -/
def precedes (a b : Version) : Bool := decide (a.key < b.key)

/-! ## Reading -/

/-- The value of a run of digits. -/
def number (ds : List Char) : Except ReadError Nat :=
  if ds.length ≤ Text.maxDigits then .ok (Text.ofDigits ds)
  else .error .numberTooLong

/-- The value of a run of digits, or zero if there are none. -/
def numberOrZero (ds : List Char) : Except ReadError Nat := if ds.isEmpty then .ok 0 else number ds

/-- The digits at the front of a text, and the rest. -/
def digits (cs : List Char) : List Char × List Char := cs.span Text.isAsciiDigit

def isSeparator (c : Char) : Bool := c == '.' || c == '_' || c == '-'

/-- Drops one separator. -/
def dropSeparator : List Char → List Char
  | c :: rest => if isSeparator c then rest else c :: rest
  | [] => []

/-- Takes a word off the front of a text, in any case. -/
def dropWord (word : String) (cs : List Char) : Option (List Char) :=
  word.toList.isPrefixOf? (cs.map Char.toLower) |>.map fun _ => cs.drop word.length

/-- The first of several words that stands at the front of a text. -/
def firstWord {α : Type} (words : List (String × α)) (cs : List Char) : Option (α × List Char) :=
  words.findSome? fun (w, a) => (dropWord w cs).map (a, ·)

/-- A mark such as `.dev3`: a separator, a word, a separator and digits, of which only the word has
to be there. Returns what the word stands for, the digits and the rest. -/
def mark {α : Type} (words : List (String × α)) (cs : List Char) : Option (α × List Char × List Char) :=
  (firstWord words (dropSeparator cs)).map fun (a, rest) =>
    let (ds, rest) := digits (dropSeparator rest)
    (a, ds, rest)

/-- The words for the stages. -/
def stageWords : List (String × Stage) := [
  ("alpha", .alpha), ("a", .alpha), ("beta", .beta), ("b", .beta), ("preview", .candidate),
  ("pre", .candidate), ("c", .candidate), ("rc", .candidate)]

/-- The segments of a release after the first, and the rest. -/
def segments : Nat → List Char → List (List Char) × List Char
  | 0, cs => ([], cs)
  | fuel + 1, cs =>
    match cs with
    | '.' :: rest =>
      match digits rest with
      | ([], _) => ([], cs)
      | (ds, rest) =>
        let (more, rest) := segments fuel rest
        (ds :: more, rest)
    | _ => ([], cs)

/-- Whether a character may stand in the name of a local build. -/
def isLocalChar (c : Char) : Bool := Text.isAsciiDigit c || ('a' ≤ c.toLower && c.toLower ≤ 'z')

/-- The parts of the name of a local build, and the rest. There is at least one part. -/
def localParts : Nat → List Char → Option (List (List Char) × List Char)
  | 0, _ => none
  | fuel + 1, cs =>
    match cs.span isLocalChar with
    | ([], _) => none
    | (part, rest) =>
      match rest with
      | c :: after =>
        if isSeparator c then
          match localParts fuel after with
          | some (parts, rest) => some (part :: parts, rest)
          | none => some ([part], rest)
        else some ([part], rest)
      | [] => some ([part], [])

/-- A part of a local build: a number if it has only digits. -/
def localPart (part : List Char) : Except ReadError LocalPart :=
  if part.all Text.isAsciiDigit then (number part).map .number
  else .ok (.word (part.map Char.toLower))

/-- The pieces of a version as they are written. -/
structure Pieces where
  epoch : List Char
  release : List (List Char)
  pre : Option (Stage × List Char)
  post : Option (List Char)
  dev : Option (List Char)
  locals : List (List Char)

/-- Cuts a version into its pieces. All words and names in it are of ASCII letters. -/
def pieces? (text : String) : Option Pieces := do
  let cs := text.toList.dropWhile Text.isBlank
  let cs := match cs with
    | c :: rest => if c == 'v' || c == 'V' then rest else cs
    | [] => cs
  let (epoch, cs) := match digits cs with
    | (ds, '!' :: rest) => if ds.isEmpty then ([], cs) else (ds, rest)
    | _ => ([], cs)
  let (first, cs) := digits cs
  if first.isEmpty then none
  let (more, cs) := segments cs.length cs
  let (pre, cs) := match mark stageWords cs with
    | some (stage, ds, rest) => (some (stage, ds), rest)
    | none => (none, cs)
  let bare := match cs with
    | '-' :: rest => match digits rest with
      | ([], _) => none
      | found => some found
    | _ => none
  let (post, cs) := match bare with
    | some (ds, rest) => (some ds, rest)
    | none => match mark [("post", ()), ("rev", ()), ("r", ())] cs with
      | some (_, ds, rest) => (some ds, rest)
      | none => (none, cs)
  let (dev, cs) := match mark [("dev", ())] cs with
    | some (_, ds, rest) => (some ds, rest)
    | none => (none, cs)
  let (locals, cs) := match cs with
    | '+' :: rest => (localParts (rest.length + 1) rest).getD ([], cs)
    | _ => ([], cs)
  if cs.all Text.isBlank then some { epoch, release := first :: more, pre, post, dev, locals } else none

/-- Reads a version. -/
def read (text : String) : Except ReadError Version :=
  match pieces? text with
  | none => .error .malformed
  | some p => do
    let epoch ← numberOrZero p.epoch
    let release ← p.release.mapM number
    let pre ← match p.pre with
      | some (stage, ds) => do pure (some (stage, ← numberOrZero ds))
      | none => pure none
    let post ← match p.post with
      | some ds => some <$> numberOrZero ds
      | none => pure none
    let dev ← match p.dev with
      | some ds => some <$> numberOrZero ds
      | none => pure none
    let locals ← p.locals.mapM localPart
    return { epoch, release, pre, post, dev, locals }

/-! ## Comparing texts -/

/-- How a comparison of two texts ends. -/
inductive Comparison where
  | below
  | notBelow
  /-- One of the texts is no version. -/
  | incomparable
  /-- One of the texts has a number with too many digits. -/
  | numberTooLong
  deriving DecidableEq

/-- Whether `version` precedes `threshold`. -/
def compareTexts (version threshold : String) (scheme : VersionScheme) : Comparison :=
  let answer (b : Bool) : Comparison := if b then .below else .notBelow
  match scheme with
  | .lexical => answer (decide (version < threshold))
  | .semantic =>
    match read version with
    | .error .malformed => .incomparable
    | .error .numberTooLong => .numberTooLong
    | .ok v =>
      match read threshold with
      | .error .malformed => .incomparable
      | .error .numberTooLong => .numberTooLong
      | .ok t => answer (v.precedes t)

end Version

end Advisor
