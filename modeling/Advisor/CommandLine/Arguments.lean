import Advisor.CommandLine.Option
import Advisor.Config.Basic
import Advisor.Report
import Advisor.Text.Integer

/-!
# The arguments of a scan

The command line has one command, which scans. `ScanArguments.parse` reads a whole command line.
-/

namespace Advisor

/-- What a command line asks for. What it does not mention is left to the configuration. -/
structure ScanArguments where
  path : String
  config : Option String
  kind : Option String
  exclude : List String
  extensions : List String
  enabledRules : List String
  disabledRules : List String
  ignoreDirectives : Bool
  includeGenerated : Bool
  maxKilobytes : Option Int
  scheme : Option String
  format : Option String
  out : Option String
  failOn : Option String
  maxIssues : Option Int
  maxLow : Option Int
  maxMedium : Option Int
  maxHigh : Option Int
  maxCritical : Option Int
  markup : Bool
  failOnBrokenSyntax : Bool
  verbose : Bool
  deriving DecidableEq

namespace ScanArguments

/-- The arguments of an empty command line. -/
def initial : ScanArguments :=
  ⟨".", none, none, [], [], [], [], false, false, none, none, none, none, none, none, none, none, none,
    none, false, false, false⟩

/-- The command that scans. -/
def commandName : String := "scan"

/-! ## Options -/

/-- An option with any value. -/
def anyValue (name : String) (set : String → ScanArguments → ScanArguments) : Opt ScanArguments :=
  ⟨[name], .value fun _ v a => .ok (set v a)⟩

/-- An option with an integer. -/
def integerValue (name : String) (set : Int → ScanArguments → ScanArguments) : Opt ScanArguments :=
  ⟨[name], .value fun option v a =>
    match Text.readInteger? v with
    | some i => .ok (set i a)
    | none => .error (.notInteger option v)⟩

/-- An option with one of some words, to which `normalize` brings what is given. -/
def choiceValue (name : String) (normalize : String → String) (choices : List String)
    (set : String → ScanArguments → ScanArguments) : Opt ScanArguments :=
  ⟨[name], .value fun option v a =>
    if choices.contains (normalize v) then .ok (set (normalize v) a)
    else .error (.notChoice option (normalize v) choices)⟩

/-- A switch. -/
def switch (names : List String) (set : ScanArguments → ScanArguments) : Opt ScanArguments :=
  ⟨names, .switch set⟩

/-- The command that scans, with its options. -/
def command : Command ScanArguments where
  program := Report.programName ++ " " ++ commandName
  options := [
    ⟨["-h", "--help"], .help⟩,
    anyValue "--config" fun v a => { a with config := some v },
    choiceValue "--input-type" id Config.kinds fun v a => { a with kind := some v },
    anyValue "--exclude" fun v a => { a with exclude := a.exclude ++ [v] },
    anyValue "--include-ext" fun v a => { a with extensions := a.extensions ++ [v] },
    anyValue "--enable-rule" fun v a => { a with enabledRules := a.enabledRules ++ [v] },
    anyValue "--disable-rule" fun v a => { a with disabledRules := a.disabledRules ++ [v] },
    switch ["--no-inline-ignore"] fun a => { a with ignoreDirectives := true },
    switch ["--include-generated"] fun a => { a with includeGenerated := true },
    integerValue "--max-file-size-kb" fun i a => { a with maxKilobytes := some i },
    choiceValue "--version-scheme" id Config.schemes fun v a => { a with scheme := some v },
    choiceValue "--format" id Config.formats fun v a => { a with format := some v },
    anyValue "--out" fun v a => { a with out := some v },
    choiceValue "--fail-on" normalizeSeverity (Severity.all.map (·.name)) fun v a =>
      { a with failOn := some v },
    integerValue "--max-issues" fun i a => { a with maxIssues := some i },
    integerValue "--max-low" fun i a => { a with maxLow := some i },
    integerValue "--max-medium" fun i a => { a with maxMedium := some i },
    integerValue "--max-high" fun i a => { a with maxHigh := some i },
    integerValue "--max-critical" fun i a => { a with maxCritical := some i },
    switch ["--jsx"] fun a => { a with markup := true },
    switch ["--fail-on-syntax-error"] fun a => { a with failOnBrokenSyntax := true },
    switch ["-v", "--verbose"] fun a => { a with verbose := true }]

/-! ## Reading a command line -/

/-- Words without the divider in front of them. -/
def dropDivider {α : Type} : List (String × Token α) → List (String × Token α)
  | (_, .divider) :: rest => rest
  | tokens => tokens

theorem length_dropDivider_le {α : Type} (tokens : List (String × Token α)) :
    (dropDivider tokens).length ≤ tokens.length := by
  unfold dropDivider
  split <;> simp

/-- Gathers the words of the command. The first word that no option takes is the path, unless
`pathTaken`; dividers around it go with it. Returns also the words that fit nowhere. -/
def gather (a : ScanArguments) (pathTaken : Bool) :
    List (String × Token ScanArguments) → Except Stop (ScanArguments × List String)
  | [] => .ok (a, [])
  | (given, .unknown) :: rest => do
    let (r, extra) ← gather a pathTaken rest
    return (r, given :: extra)
  | (_, .option o name attached) :: rest =>
    match h : command.consume o name attached rest a with
    | .error s => .error s
    | .ok (b, more) =>
      have := command.length_consume_le h
      gather b pathTaken more
  | (given, .word) :: rest =>
    if pathTaken then do
      let (r, extra) ← gather a true rest
      return (r, given :: extra)
    else
      have := length_dropDivider_le rest
      gather { a with path := given } true (dropDivider rest)
  | (given, .divider) :: rest =>
    if pathTaken then do
      let (r, extra) ← gather a true rest
      return (r, given :: extra)
    else match rest with
      | [] => .ok (a, [])
      | (word, _) :: more => gather { a with path := word } true more
termination_by tokens => tokens.length

/-- Reads the words that follow the command. -/
def parseScan (words : List String) : Except Stop (ScanArguments × List String) := do
  let tokens ← (command.classifyAll words).mapError (.fault command.program)
  gather initial false tokens

/-- The program as a whole, which has commands. -/
def commands : Command Unit where
  program := Report.programName
  options := [⟨["-h", "--help"], .help⟩, ⟨["--version"], .version⟩]

/-- Finds the command among the words: the first that no option takes, with all that follows.
Returns also the words that fit nowhere. -/
def findCommand : List (String × Token Unit) → Except Stop (Option (List String) × List String)
  | [] => .ok (none, [])
  | (given, .unknown) :: rest => do
    let (r, extra) ← findCommand rest
    return (r, given :: extra)
  | (_, .option o name attached) :: rest =>
    match h : commands.consume o name attached rest () with
    | .error s => .error s
    | .ok (_, more) =>
      have := commands.length_consume_le h
      findCommand more
  | (given, .word) :: rest => .ok (some (given :: rest.map (·.1)), [])
  | (given, .divider) :: rest =>
    if rest.isEmpty then .ok (none, [given]) else .ok (some (given :: rest.map (·.1)), [])
termination_by tokens => tokens.length

/-- Reads a command line. -/
def parse (words : List String) : Except Stop ScanArguments := do
  let fault (f : ArgumentFault) : Stop := .fault commands.program f
  let tokens ← (commands.classifyAll words).mapError fault
  match ← findCommand tokens with
  | (none, _) => throw (fault (.missing "command"))
  | (some [], _) => throw (fault (.missing "command"))
  | (some (name :: rest), before) =>
    if name != commandName then throw (fault (.notChoice "command" name [commandName]))
    let (a, after) ← parseScan rest
    match before ++ after with
    | [] => return a
    | extra => throw (fault (.unrecognized extra))

end ScanArguments

end Advisor
