import Advisor.Text.Digit
import Advisor.Text.Quoted

/-!
# Options

What the words of a command line stand for. A long option may be shortened as long as no other begins
alike, its value may follow after an equals sign or as a word of its own, and one-letter options may
share a dash. `Command.classify` sorts a word by its looks alone, and `Command.consume` lets an option
take effect on what has been gathered so far. What it leaves is never longer than what it was given
(`length_consume_le`), so reading a command line ends.
-/

namespace Advisor

/-- What is wrong with the words of a command line. -/
inductive ArgumentFault where
  /-- A shortened option with more than one reading. -/
  | ambiguous (given : String) (readings : List String)
  /-- A value for an option that takes none. -/
  | ignoredValue (option value : String)
  | missingValue (option : String)
  | notInteger (option value : String)
  | notChoice (option value : String) (choices : List String)
  | missing (name : String)
  | unrecognized (words : List String)
  deriving DecidableEq

/-- What is said about a fault. -/
def ArgumentFault.message : ArgumentFault → String
  | ambiguous given readings =>
    "ambiguous option: " ++ given ++ " could match " ++ ", ".intercalate readings
  | ignoredValue option value =>
    "argument " ++ option ++ ": ignored explicit argument " ++ Text.quoted value
  | missingValue option => "argument " ++ option ++ ": expected one argument"
  | notInteger option value => "argument " ++ option ++ ": invalid int value: " ++ Text.quoted value
  | notChoice option value choices =>
    "argument " ++ option ++ ": invalid choice: " ++ Text.quoted value ++ " (choose from "
      ++ ", ".intercalate (choices.map Text.quoted) ++ ")"
  | missing name => "the following arguments are required: " ++ name
  | unrecognized words => "unrecognized arguments: " ++ " ".intercalate words

/-- Why a command line does not lead to a run. -/
inductive Stop where
  /-- The user asks how a program is called. -/
  | help (program : String)
  /-- The user asks for the version. -/
  | version
  | fault (program : String) (f : ArgumentFault)
  deriving DecidableEq

/-- What an option does to what has been gathered. -/
inductive Effect (α : Type) where
  | help
  | version
  | switch (set : α → α)
  /-- Takes a value. The fault is told what the option is called. -/
  | value (set : (option value : String) → α → Except ArgumentFault α)

/-- An option with all its names. -/
structure Opt (α : Type) where
  names : List String
  effect : Effect α

namespace Opt

variable {α : Type}

/-- What an option is called in messages. -/
def title (o : Opt α) : String := "/".intercalate o.names

def takesValue (o : Opt α) : Bool :=
  match o.effect with
  | .value _ => true
  | _ => false

end Opt

/-- What a word of a command line looks like. -/
inductive Token (α : Type) where
  | word
  /-- The two dashes after which everything is a word. -/
  | divider
  /-- An option under one of its names, with the value attached to it. -/
  | option (o : Opt α) (name : String) (attached : Option (List Char))
  | unknown

/-- A program that is called with options. -/
structure Command (α : Type) where
  program : String
  options : List (Opt α)

namespace Command

variable {α : Type}

/-- All names of options, with their options. -/
def names (c : Command α) : List (String × Opt α) :=
  c.options.flatMap fun o => o.names.map (·, o)

/-- The option of a name. -/
def find? (c : Command α) (name : String) : Option (Opt α) := c.names.lookup name

/-- Splits a text at its first equals sign. -/
def splitValue (cs : List Char) : List Char × Option (List Char) :=
  match cs.dropWhile (· != '=') with
  | [] => (cs, none)
  | _ :: value => (cs.takeWhile (· != '='), some value)

/-- Whether a text is a negative number. -/
def isNegativeNumber (cs : List Char) : Bool :=
  let body := if cs.getLast? = some '\n' then cs.dropLast else cs
  match body with
  | '-' :: rest =>
    match rest.dropWhile Text.isDecimalDigit with
    | [] => !rest.isEmpty
    | '.' :: digits => !digits.isEmpty && digits.all Text.isDecimalDigit
    | _ => false
  | _ => false

/-- The readings of a word that begins with a dash and is no option's full name. -/
def readings (c : Command α) (cs : List Char) : List (String × Token α) :=
  match cs with
  | '-' :: '-' :: _ =>
    let (stem, attached) := splitValue cs
    c.names.filterMap fun (name, o) =>
      if stem.isPrefixOf name.toList then some (name, .option o name attached) else none
  | '-' :: letter :: attached =>
    c.names.filterMap fun (name, o) =>
      if name.toList = ['-', letter] then some (name, .option o name (some attached))
      else if cs.isPrefixOf name.toList then some (name, .option o name none)
      else none
  | _ => []

/-- What a word looks like, if it begins with a dash and has more to it. -/
def classifyDashed (c : Command α) (given : String) : Except ArgumentFault (Token α) :=
  let cs := given.toList
  let (stem, attached) := splitValue cs
  let full : Option (Token α) :=
    match attached with
    | none => none
    | some _ => (c.find? (String.ofList stem)).map (.option · (String.ofList stem) attached)
  match full with
  | some t => .ok t
  | none =>
    match c.readings cs with
    | [(_, t)] => .ok t
    | [] => .ok (if isNegativeNumber cs || cs.contains ' ' then .word else .unknown)
    | many => .error (.ambiguous given (many.map (·.1)))

/-- What a word looks like. -/
def classify (c : Command α) (given : String) : Except ArgumentFault (Token α) :=
  match given.toList with
  | '-' :: rest =>
    match c.find? given with
    | some o => .ok (.option o given none)
    | none => if rest.isEmpty then .ok .word else c.classifyDashed given
  | _ => .ok .word

/-- What the words of a command line look like. -/
def classifyAll (c : Command α) : List String → Except ArgumentFault (List (String × Token α))
  | [] => .ok []
  | "--" :: rest => .ok (("--", .divider) :: rest.map (·, .word))
  | given :: rest => do
    let t ← c.classify given
    return (given, t) :: (← c.classifyAll rest)

/-- The options that share a dash with the first of them, and the value attached to the last. -/
def cluster (c : Command α) (o : Opt α) :
    List Char → Except ArgumentFault (List (Opt α) × Opt α × Option String)
  | [] =>
    if o.takesValue then .ok ([], o, some "") else .error (.ignoredValue o.title "")
  | letter :: rest =>
    if o.takesValue then .ok ([], o, some (String.ofList (letter :: rest)))
    else match c.find? (String.ofList ['-', letter]) with
      | none => .error (.ignoredValue o.title (String.ofList (letter :: rest)))
      | some next =>
        if rest.isEmpty then .ok ([o], next, none)
        else (c.cluster next rest).map fun (before, last, value) => (o :: before, last, value)

/-- The options that one word holds, and the value attached to the last. -/
def expand (c : Command α) (o : Opt α) (name : String) :
    Option (List Char) → Except ArgumentFault (List (Opt α) × Opt α × Option String)
  | none => .ok ([], o, none)
  | some attached =>
    if name.toList.take 2 = ['-', '-'] && !o.takesValue then
      .error (.ignoredValue o.title (String.ofList attached))
    else c.cluster o attached

/-- The effect of an option, with its value if it takes one. -/
def apply (c : Command α) (o : Opt α) (value : String) (a : α) : Except Stop α :=
  match o.effect with
  | .help => .error (.help c.program)
  | .version => .error .version
  | .switch set => .ok (set a)
  | .value set => (set o.title value a).mapError (.fault c.program)

/-- The effects of options without values, one after the other. -/
def applyAll (c : Command α) (a : α) : List (Opt α) → Except Stop α
  | [] => .ok a
  | o :: rest => do c.applyAll (← c.apply o "" a) rest

/-- The value of an option: the attached one, or the next word if the option needs one. An option that
takes no value has an empty one. Returns what follows. -/
def takeValue (o : Opt α) (attached : Option String) (rest : List (String × Token α)) :
    Except ArgumentFault (String × List (String × Token α)) :=
  match attached with
  | some v => .ok (v, rest)
  | none =>
    if o.takesValue then
      match rest with
      | (v, .word) :: more => .ok (v, more)
      | _ => .error (.missingValue o.title)
    else .ok ("", rest)

/-- Lets the options of one word take effect, the last of them with its value. Returns what follows. -/
def consume (c : Command α) (o : Opt α) (name : String) (attached : Option (List Char))
    (rest : List (String × Token α)) (a : α) : Except Stop (α × List (String × Token α)) :=
  match c.expand o name attached with
  | .error f => .error (.fault c.program f)
  | .ok (before, last, own) =>
    match takeValue last own rest with
    | .error f => .error (.fault c.program f)
    | .ok (value, more) => (c.applyAll a before >>= c.apply last value).map (·, more)

/-- A value takes at most what follows the option. -/
theorem length_takeValue_le {o : Opt α} {attached : Option String} {rest more : List (String × Token α)}
    {value : String} (h : takeValue o attached rest = .ok (value, more)) :
    more.length ≤ rest.length := by
  unfold takeValue at h
  split at h
  · cases h
    exact Nat.le_refl _
  · split at h
    · split at h
      · cases h
        exact Nat.le_succ _
      · cases h
    · cases h
      exact Nat.le_refl _

/-- What follows an option is no longer than what followed it before. -/
theorem length_consume_le (c : Command α) {o : Opt α} {name : String} {attached : Option (List Char)}
    {rest more : List (String × Token α)} {a b : α}
    (h : c.consume o name attached rest a = .ok (b, more)) : more.length ≤ rest.length := by
  unfold consume at h
  split at h
  · cases h
  · split at h
    · cases h
    · next hv =>
      cases hr : c.applyAll a _ >>= c.apply _ _ with
      | error s => rw [hr] at h; cases h
      | ok r =>
        rw [hr] at h
        cases h
        exact length_takeValue_le hv

end Command

end Advisor
