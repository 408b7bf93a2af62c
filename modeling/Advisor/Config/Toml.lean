import Advisor.Config.Setting
import Advisor.Text.Blank
import Advisor.Text.Digit

/-!
# Reading TOML

`Toml.read` turns a document into a table. The state of the reader is the table built so far, with
marks on the paths that may not be opened again: those declared by a header, those opened by dotted
names, and those that hold a list or table written in one place, below which nothing may be added.
How much nesting is allowed is for the caller to say: a list costs two units of it and a table
three.
-/

namespace Advisor.Toml

/-- Why a document cannot be read. -/
inductive ReadError where
  | malformed
  | numberTooLong
  | nestedTooDeep
  deriving DecidableEq

/-- What a reader returns: a value and the text behind it. -/
abbrev Read (α : Type) := Except ReadError (α × List Char)

/-- The names that lead to an entry. -/
abbrev Path := List String

abbrev Entries := List (String × Setting)

/-! ## Marks -/

/-- The marks on paths. -/
structure Marks where
  /-- Paths that no header may declare again. -/
  declared : List Path
  /-- Paths at and below which nothing may be changed. -/
  frozen : List Path
  /-- Paths that are declared as soon as the next header comes. -/
  pending : List Path
  deriving Inhabited

namespace Marks

def empty : Marks := ⟨[], [], []⟩

/-- Whether a path has been declared. -/
def isDeclared (m : Marks) (path : Path) : Bool := m.declared.contains path

/-- Whether a path lies at or below a frozen one. -/
def isFrozen (m : Marks) (path : Path) : Bool := m.frozen.any (·.isPrefixOf path)

def declare (m : Marks) (path : Path) : Marks := { m with declared := path :: m.declared }

def freeze (m : Marks) (path : Path) : Marks := { m with frozen := path :: m.frozen }

def postpone (m : Marks) (path : Path) : Marks := { m with pending := path :: m.pending }

/-- Declares what is pending. -/
def settle (m : Marks) : Marks := { m with declared := m.pending ++ m.declared, pending := [] }

/-- Takes off all marks at and below a path. -/
def clear (m : Marks) (path : Path) : Marks :=
  { m with declared := m.declared.filter (!path.isPrefixOf ·)
           frozen := m.frozen.filter (!path.isPrefixOf ·) }

end Marks

/-! ## Tables under construction -/

/-- Changes the entry of a name, or adds one at the end. -/
def setEntry (entries : Entries) (name : String) (value : Setting) : Entries :=
  match entries with
  | [] => [(name, value)]
  | (n, v) :: rest => if n = name then (n, value) :: rest else (n, v) :: setEntry rest name value

/-- Changes the table at a path, making tables on the way as needed. A list of tables stands for its
last one, if `throughLists` allows it. -/
def modifyAt (throughLists : Bool) (f : Entries → Option Entries) : Path → Entries → Option Entries
  | [], entries => f entries
  | k :: path, entries =>
    match entries.lookup k with
    | none => (modifyAt throughLists f path []).map fun t => setEntry entries k (.table t)
    | some (.table t) => (modifyAt throughLists f path t).map fun t => setEntry entries k (.table t)
    | some (.list items) =>
      if throughLists then
        match items.getLast? with
        | some (.table t) =>
          (modifyAt throughLists f path t).map fun t =>
            setEntry entries k (.list (items.dropLast ++ [.table t]))
        | _ => none
      else none
    | some _ => none

/-- Adds an entry that must be new. -/
def addNew (name : String) (value : Setting) (entries : Entries) : Option Entries :=
  if (entries.lookup name).isSome then none else some (setEntry entries name value)

/-- Adds an empty table to the list of tables of a name. -/
def addTable (name : String) (entries : Entries) : Option Entries :=
  match entries.lookup name with
  | none => some (setEntry entries name (.list [.table []]))
  | some (.list items) => some (setEntry entries name (.list (items ++ [.table []])))
  | some _ => none

/-! ## Blanks and comments -/

/-- Control characters that no line may hold. -/
def isControl (c : Char) : Bool := (c.toNat < 0x20 && c != '\t') || c.toNat == 0x7f

/-- Skips a comment up to the end of the line. -/
def skipComment : List Char → Except ReadError (List Char)
  | '#' :: rest =>
    let (comment, rest) := rest.span (· != '\n')
    if comment.any isControl then .error .malformed else .ok rest
  | cs => .ok cs

/-- Skips blanks, line feeds and comments. -/
def skipLines : Nat → List Char → Except ReadError (List Char)
  | 0, cs => .ok cs
  | fuel + 1, cs =>
    match cs.dropWhile fun c => Text.isInlineBlank c || c == '\n' with
    | '#' :: rest =>
      match skipComment ('#' :: rest) with
      | .ok rest => skipLines fuel rest
      | .error e => .error e
    | rest => .ok rest

/-! ## Texts -/

/-- The number with the given hexadecimal digits. -/
def hexNumber? (cs : List Char) : Option Nat :=
  cs.foldl (fun n c => do return (← n) * 16 + (← Text.hexValue? c)) (some 0)

/-- The character that is written by its number in `width` digits. -/
def hexChar (width : Nat) (cs : List Char) : Read Char :=
  let ds := cs.take width
  match hexNumber? ds with
  | some n =>
    if ds.length = width && (n < 0xd800 || (0xdfff < n && n < 0x110000)) then
      .ok (Char.ofNat n, cs.drop width)
    else .error .malformed
  | none => .error .malformed

/-- The character that a letter stands for after a backslash. -/
def escaped? : Char → Option Char
  | 'b' => some '\x08'
  | 't' => some '\t'
  | 'n' => some '\n'
  | 'f' => some '\x0c'
  | 'r' => some '\r'
  | '"' => some '"'
  | '\\' => some '\\'
  | _ => none

/-- What follows a backslash: a character, or nothing for the end of a line in a long text, which is
skipped with the blanks after it. -/
def readEscape (long : Bool) (cs : List Char) : Read (Option Char) :=
  match cs with
  | 'u' :: rest => (hexChar 4 rest).map fun (c, rest) => (some c, rest)
  | 'U' :: rest => (hexChar 8 rest).map fun (c, rest) => (some c, rest)
  | c :: rest =>
    if long && (Text.isInlineBlank c || c == '\n') then
      match cs.dropWhile Text.isInlineBlank with
      | '\n' :: rest => .ok (none, rest.dropWhile fun c => Text.isInlineBlank c || c == '\n')
      | [] => .ok (none, [])
      | _ => .error .malformed
    else
      match escaped? c with
      | some e => .ok (some e, rest)
      | none => .error .malformed
  | [] => .error .malformed

/-- Reads the rest of a text in double quotes after the opening ones. -/
def readBasic (long : Bool) : Nat → List Char → List Char → Read (List Char)
  | 0, _, _ => .error .malformed
  | fuel + 1, acc, cs =>
    match cs with
    | '"' :: rest =>
      if long then
        match rest with
        | '"' :: '"' :: rest => .ok (acc.reverse, rest)
        | _ => readBasic long fuel ('"' :: acc) rest
      else .ok (acc.reverse, rest)
    | '\\' :: rest =>
      match readEscape long rest with
      | .ok (some c, rest) => readBasic long fuel (c :: acc) rest
      | .ok (none, rest) => readBasic long fuel acc rest
      | .error e => .error e
    | c :: rest =>
      if isControl c && !(long && c == '\n') then .error .malformed
      else readBasic long fuel (c :: acc) rest
    | [] => .error .malformed

/-- Reads the rest of a text in single quotes after the opening one. -/
def readLiteral (cs : List Char) : Read (List Char) :=
  match cs.span (· != '\'') with
  | (body, '\'' :: rest) => if body.any isControl then .error .malformed else .ok (body, rest)
  | _ => .error .malformed

/-- Reads the rest of a long text in single quotes after the opening ones. -/
def readLongLiteral (acc : List Char) : List Char → Read (List Char)
  | '\'' :: '\'' :: '\'' :: rest => .ok (acc.reverse, rest)
  | c :: rest =>
    if isControl c && c != '\n' then .error .malformed else readLongLiteral (c :: acc) rest
  | [] => .error .malformed

/-- Up to two more quotes right behind a long text belong to it. -/
def extraQuotes (mark : Char) (body : List Char) (cs : List Char) : List Char × List Char :=
  match cs with
  | a :: b :: rest =>
    if a == mark then if b == mark then (body ++ [mark, mark], rest) else (body ++ [mark], b :: rest)
    else (body, cs)
  | [a] => if a == mark then (body ++ [mark], []) else (body, cs)
  | [] => (body, cs)

/-- Drops a line feed at the front. -/
def dropLineFeed : List Char → List Char
  | '\n' :: rest => rest
  | cs => cs

/-- Reads a text of any kind, if one stands there. -/
def readText? (cs : List Char) : Option (Read Setting) :=
  let long (mark : Char) (r : Read (List Char)) : Read Setting :=
    r.map fun (body, rest) =>
      let (body, rest) := extraQuotes mark body rest
      (.text (String.ofList body), rest)
  let short (r : Read (List Char)) : Read Setting :=
    r.map fun (body, rest) => (.text (String.ofList body), rest)
  match cs with
  | '"' :: '"' :: '"' :: rest =>
    some (long '"' (readBasic true (rest.length + 1) [] (dropLineFeed rest)))
  | '"' :: rest => some (short (readBasic false (rest.length + 1) [] rest))
  | '\'' :: '\'' :: '\'' :: rest => some (long '\'' (readLongLiteral [] (dropLineFeed rest)))
  | '\'' :: rest => some (short (readLiteral rest))
  | _ => none

/-! ## Names -/

def isNameChar (c : Char) : Bool :=
  ('a' ≤ c && c ≤ 'z') || ('A' ≤ c && c ≤ 'Z') || ('0' ≤ c && c ≤ '9') || c == '-' || c == '_'

/-- Reads one part of a name. -/
def readNamePart (cs : List Char) : Read String :=
  match cs with
  | '"' :: rest => (readBasic false (rest.length + 1) [] rest).map fun (s, rest) => (String.ofList s, rest)
  | '\'' :: rest => (readLiteral rest).map fun (s, rest) => (String.ofList s, rest)
  | _ =>
    match cs.span isNameChar with
    | ([], _) => .error .malformed
    | (name, rest) => .ok (String.ofList name, rest)

/-- Reads a dotted name, with the blanks after it. -/
def readPath : Nat → List Char → Except ReadError (Path × List Char)
  | 0, _ => .error .malformed
  | fuel + 1, cs => do
    let (part, rest) ← readNamePart cs
    match rest.dropWhile Text.isInlineBlank with
    | '.' :: rest =>
      let (more, rest) ← readPath fuel (rest.dropWhile Text.isInlineBlank)
      return (part :: more, rest)
    | rest => return ([part], rest)

/-! ## Numbers, dates and times -/

/-- Takes `n` digits. -/
def takeDigits (n : Nat) (cs : List Char) : Option (Nat × List Char) :=
  let ds := cs.take n
  if ds.length = n && ds.all Text.isAsciiDigit then
    some (ds.foldl (fun v c => v * 10 + (c.toNat - '0'.toNat)) 0, cs.drop n)
  else none

/-- Takes two digits that make a number within bounds. -/
def takeTwo (lo hi : Nat) (cs : List Char) : Option (Nat × List Char) :=
  (takeDigits 2 cs).filter fun (n, _) => lo ≤ n && n ≤ hi

def takeChar (c : Char) : List Char → Option (List Char)
  | d :: rest => if d == c then some rest else none
  | [] => none

/-- Takes a time of day. Of a fraction six digits count. -/
def takeClock (cs : List Char) : Option (Clock × List Char) := do
  let (hour, cs) ← takeTwo 0 23 cs
  let (minute, cs) ← takeTwo 0 59 (← takeChar ':' cs)
  let (second, cs) ← takeTwo 0 59 (← takeChar ':' cs)
  match cs with
  | '.' :: rest =>
    match rest.span Text.isAsciiDigit with
    | ([], _) => return (⟨hour, minute, second, 0⟩, cs)
    | (ds, rest) =>
      let six := ds.take 6 ++ List.replicate (6 - ds.length) '0'
      let micro := six.foldl (fun v c => v * 10 + (c.toNat - '0'.toNat)) 0
      return (⟨hour, minute, second, micro⟩, rest)
  | _ => return (⟨hour, minute, second, 0⟩, cs)

/-- Takes an offset from universal time. -/
def takeOffset (cs : List Char) : Option Int × List Char :=
  match cs with
  | c :: rest =>
    if c == 'Z' || c == 'z' then (some 0, rest)
    else if c == '+' || c == '-' then
      let found : Option (Int × List Char) := do
        let (hour, cs) ← takeTwo 0 23 rest
        let (minute, cs) ← takeTwo 0 59 (← takeChar ':' cs)
        let n : Int := hour * 60 + minute
        return (if c == '-' then -n else n, cs)
      match found with
      | some (n, rest) => (some n, rest)
      | none => (none, cs)
    else (none, cs)
  | [] => (none, cs)

/-- Takes a date, perhaps with a time. -/
def takeDate (cs : List Char) : Option (Moment × List Char) := do
  let (year, cs) ← takeDigits 4 cs
  let (month, cs) ← takeTwo 1 12 (← takeChar '-' cs)
  let (day, cs) ← takeTwo 1 31 (← takeChar '-' cs)
  let d : Day := ⟨year, month, day⟩
  match cs with
  | c :: rest =>
    if c == 'T' || c == 't' || c == ' ' then
      match takeClock rest with
      | some (clock, rest) =>
        let (offset, rest) := takeOffset rest
        return (.both d clock offset, rest)
      | none => return (.day d, cs)
    else return (.day d, cs)
  | [] => return (.day d, cs)

/-- The day of a moment. -/
def dayOf? : Moment → Option Day
  | .day d => some d
  | .both d _ _ => some d
  | .clock _ => none

/-- Takes digits with single underscores between them; there is at least one. -/
def takeGrouped (isDigit : Char → Bool) : Nat → List Char → List Char × List Char
  | 0, cs => ([], cs)
  | fuel + 1, cs =>
    match cs with
    | '_' :: c :: rest =>
      if isDigit c then
        let (ds, rest) := takeGrouped isDigit fuel rest
        (c :: ds, rest)
      else ([], cs)
    | c :: rest =>
      if isDigit c then
        let (ds, rest) := takeGrouped isDigit fuel rest
        (c :: ds, rest)
      else ([], cs)
    | [] => ([], [])

/-- Takes a group of digits that begins with a digit. -/
def takeGroup (isDigit : Char → Bool) (cs : List Char) : List Char × List Char :=
  match cs with
  | c :: _ => if isDigit c then takeGrouped isDigit cs.length cs else ([], cs)
  | [] => ([], cs)

/-- Takes a number in another base than ten. -/
def takeBased (cs : List Char) : Option (Nat × List Char) :=
  let based (base : Nat) (isDigit : Char → Bool) (rest : List Char) : Option (Nat × List Char) :=
    match takeGroup isDigit rest with
    | ([], _) => none
    | (ds, rest) => some (Text.inBase base (fun c => (Text.hexValue? c).getD 0) ds, rest)
  match cs with
  | '0' :: 'x' :: rest => based 16 (fun c => (Text.hexValue? c).isSome) rest
  | '0' :: 'b' :: rest => based 2 (fun c => c == '0' || c == '1') rest
  | '0' :: 'o' :: rest => based 8 (fun c => '0' ≤ c && c ≤ '7') rest
  | _ => none

/-- The fraction of a number: the digits behind the point. -/
def takeFraction (cs : List Char) : Option (List Char) × List Char :=
  match cs with
  | '.' :: rest =>
    match takeGroup Text.isAsciiDigit rest with
    | ([], _) => (none, cs)
    | (ds, rest) => (some ds, rest)
  | _ => (none, cs)

/-- The exponent of a number. -/
def takeExponent (cs : List Char) : Option Int × List Char :=
  match cs with
  | c :: rest =>
    if c == 'e' || c == 'E' then
      let (negative, body) := match rest with
        | '+' :: rest => (false, rest)
        | '-' :: rest => (true, rest)
        | _ => (false, rest)
      match takeGroup Text.isAsciiDigit body with
      | ([], _) => (none, cs)
      | (ds, rest) =>
        let n : Int := Text.ofDigits ds
        (some (if negative then -n else n), rest)
    else (none, cs)
  | [] => (none, cs)

/-- Reads a number in base ten, if one stands there. -/
def readDecimal? (cs : List Char) : Option (Read Setting) :=
  let (negative, body) := match cs with
    | '+' :: rest => (false, rest)
    | '-' :: rest => (true, rest)
    | _ => (false, cs)
  let (whole, rest) := match body with
    | '0' :: rest => (['0'], rest)
    | _ => takeGroup Text.isAsciiDigit body
  if whole.isEmpty then none
  else
    match takeFraction rest with
    | (fraction, rest) =>
      match takeExponent rest with
      | (exponent, rest) =>
        if fraction.isNone && exponent.isNone then
          if Text.maxDigits < whole.length then some (.error .numberTooLong)
          else
            let n : Int := Text.ofDigits whole
            some (.ok (.int (if negative then -n else n), rest))
        else
          let decimals := fraction.getD []
          let x := Double.ofDecimal negative (Text.ofDigits (whole ++ decimals))
            (exponent.getD 0 - decimals.length)
          some (.ok (.real x, rest))

/-- The words for infinities and for what is no number. -/
def specialNumbers : List (String × Double) := [
  ("inf", .infinite false), ("nan", .nan), ("-inf", .infinite true), ("+inf", .infinite false),
  ("-nan", .nan), ("+nan", .nan)]

/-- Reads a value that is neither list nor table. -/
def readScalar (cs : List Char) : Read Setting :=
  match readText? cs with
  | some r => r
  | none =>
    match Text.word? "true" cs, Text.word? "false" cs with
    | some rest, _ => .ok (.flag true, rest)
    | _, some rest => .ok (.flag false, rest)
    | none, none =>
      match takeDate cs with
      | some (m, rest) =>
        if ((dayOf? m).map Day.isValid).getD true then .ok (.moment m, rest) else .error .malformed
      | none =>
        match takeClock cs with
        | some (c, rest) => .ok (.moment (.clock c), rest)
        | none =>
          match takeBased cs with
          | some (n, rest) => .ok (.int n, rest)
          | none =>
            match readDecimal? cs with
            | some r => r
            | none =>
              match specialNumbers.findSome? fun (w, x) => (Text.word? w cs).map (x, ·) with
              | some (x, rest) => .ok (.real x, rest)
              | none => .error .malformed

/-! ## Values -/

/-- Whether a value is a list or a table. -/
def isComposite : Setting → Bool
  | .list _ => true
  | .table _ => true
  | _ => false

/-- Reads a name, an equals sign and the blanks after it. -/
def readNameAndEquals (cs : List Char) : Except ReadError (Path × List Char) := do
  let (path, rest) ← readPath (cs.length + 1) cs
  match rest with
  | '=' :: rest => return (path, rest.dropWhile Text.isInlineBlank)
  | _ => .error .malformed

/-- Adds an entry to a table that is written in one place. -/
def addInline (marks : Marks) (entries : Entries) (path : Path) (value : Setting) :
    Except ReadError Entries :=
  if marks.isFrozen path then .error .malformed
  else match modifyAt false (addNew (path.getLast?.getD "") value) path.dropLast entries with
    | some es => .ok es
    | none => .error .malformed

mutual

/-- Reads a value. `fuel` bounds the number of steps, of which twice the length of the text is
enough, and `nesting` is what is left for lists and tables. -/
def readValue (fuel nesting : Nat) (cs : List Char) : Read Setting :=
  match fuel with
  | 0 => .error .malformed
  | fuel + 1 =>
    match cs with
    | '[' :: rest =>
      if nesting < 2 then .error .nestedTooDeep
      else match skipLines rest.length rest with
        | .error e => .error e
        | .ok (']' :: rest) => .ok (.list [], rest)
        | .ok rest => readItems fuel (nesting - 2) [] rest
    | '{' :: rest =>
      if nesting < 3 then .error .nestedTooDeep
      else match rest.dropWhile Text.isInlineBlank with
        | '}' :: rest => .ok (.table [], rest)
        | rest => readEntries fuel (nesting - 3) .empty [] rest
    | _ => readScalar cs

/-- Reads the items of a list from the first that is left on; those read so far come in reverse. -/
def readItems (fuel nesting : Nat) (acc : List Setting) (cs : List Char) : Read Setting :=
  match fuel with
  | 0 => .error .malformed
  | fuel + 1 =>
    match readValue fuel nesting cs with
    | .error e => .error e
    | .ok (v, rest) =>
      match skipLines rest.length rest with
      | .error e => .error e
      | .ok (']' :: rest) => .ok (.list (v :: acc).reverse, rest)
      | .ok (',' :: rest) =>
        match skipLines rest.length rest with
        | .error e => .error e
        | .ok (']' :: rest) => .ok (.list (v :: acc).reverse, rest)
        | .ok rest => readItems fuel nesting (v :: acc) rest
      | .ok _ => .error .malformed

/-- Reads the entries of a table that is written in one place. -/
def readEntries (fuel nesting : Nat) (marks : Marks) (acc : Entries) (cs : List Char) : Read Setting :=
  match fuel with
  | 0 => .error .malformed
  | fuel + 1 =>
    match readNameAndEquals cs with
    | .error e => .error e
    | .ok (path, rest) =>
      match readValue fuel nesting rest with
      | .error e => .error e
      | .ok (v, rest) =>
        match addInline marks acc path v with
        | .error e => .error e
        | .ok acc =>
          match rest.dropWhile Text.isInlineBlank with
          | '}' :: rest => .ok (.table acc, rest)
          | ',' :: rest =>
            readEntries fuel nesting (if isComposite v then marks.freeze path else marks) acc
              (rest.dropWhile Text.isInlineBlank)
          | _ => .error .malformed

end

/-! ## Documents -/

/-- A document under construction. -/
structure Document where
  entries : Entries
  marks : Marks
  header : Path

/-- Adds an entry below the header that stands last. -/
def Document.add (d : Document) (path : Path) (value : Setting) : Except ReadError Document :=
  let parents := (List.range path.length).tail.map fun n => d.header ++ path.take n
  if parents.any d.marks.isDeclared then .error .malformed
  else
    let marks := parents.foldl Marks.postpone d.marks
    let place := d.header ++ path.dropLast
    if marks.isFrozen place then .error .malformed
    else match modifyAt true (addNew (path.getLast?.getD "") value) place d.entries with
      | none => .error .malformed
      | some entries =>
        let marks := if isComposite value then marks.freeze (d.header ++ path) else marks
        .ok { d with entries, marks }

/-- Opens a table. -/
def Document.openTable (d : Document) (path : Path) : Except ReadError Document :=
  if d.marks.isDeclared path || d.marks.isFrozen path then .error .malformed
  else match modifyAt true some path d.entries with
    | none => .error .malformed
    | some entries => .ok { entries, marks := d.marks.declare path, header := path }

/-- Opens a new table at the end of a list of tables. -/
def Document.openItem (d : Document) (path : Path) : Except ReadError Document :=
  if d.marks.isFrozen path then .error .malformed
  else match modifyAt true (addTable (path.getLast?.getD "")) path.dropLast d.entries with
    | none => .error .malformed
    | some entries => .ok { entries, marks := (d.marks.clear path).declare path, header := path }

/-- Reads the statements of a document. -/
def readStatements (nesting : Nat) : Nat → Document → List Char → Except ReadError Document
  | 0, _, _ => .error .malformed
  | fuel + 1, d, cs => do
    let (d, rest) ← match cs.dropWhile Text.isInlineBlank with
      | '[' :: '[' :: rest => do
        let d := { d with marks := d.marks.settle }
        let (path, rest) ← readPath (rest.length + 1) (rest.dropWhile Text.isInlineBlank)
        let d ← d.openItem path
        match rest with
        | ']' :: ']' :: rest => pure (d, rest.dropWhile Text.isInlineBlank)
        | _ => .error .malformed
      | '[' :: rest => do
        let d := { d with marks := d.marks.settle }
        let (path, rest) ← readPath (rest.length + 1) (rest.dropWhile Text.isInlineBlank)
        let d ← d.openTable path
        match rest with
        | ']' :: rest => pure (d, rest.dropWhile Text.isInlineBlank)
        | _ => .error .malformed
      | c :: rest =>
        if isNameChar c || c == '"' || c == '\'' then do
          let (path, rest) ← readNameAndEquals (c :: rest)
          let (value, rest) ← readValue (2 * rest.length + 1) nesting rest
          let d ← d.add path value
          pure (d, rest.dropWhile Text.isInlineBlank)
        else if c == '#' || c == '\n' then pure (d, c :: rest)
        else .error .malformed
      | [] => pure (d, [])
    match ← skipComment rest with
    | [] => return d
    | '\n' :: rest => readStatements nesting fuel d rest
    | _ => .error .malformed

/-- Makes one line feed of a carriage return before a line feed. -/
def joinLineEnds : List Char → List Char → List Char
  | [], acc => acc.reverse
  | '\r' :: '\n' :: rest, acc => joinLineEnds rest ('\n' :: acc)
  | c :: rest, acc => joinLineEnds rest (c :: acc)

/-- Reads a document whose values use up no more than `nesting`. -/
def read (nesting : Nat) (text : String) : Except ReadError Entries :=
  let cs := joinLineEnds text.toList []
  (readStatements nesting (cs.length + 1) ⟨[], .empty, []⟩ cs).map (·.entries)

end Advisor.Toml
