import Advisor.Config.Setting
import Advisor.Gate
import Advisor.Scan.Rule
import Advisor.Text.Case

/-!
# The configuration

What a configuration holds, with its defaults. Most places take any setting, and `Config.check` says
what is wrong with them afterwards; a setting that cannot even be looked at is a `Misfit`.
-/

namespace Advisor

/-- A configuration. -/
structure Config where
  exclude : List Setting
  extensions : List Setting
  maxKilobytes : Int
  skipGenerated : Bool
  enabledRules : Option (List String)
  disabledRules : List String
  directives : Bool
  kind : Option Setting
  scheme : Setting
  gate : Gate
  format : Setting
  out : Option Setting
  deriving Inhabited

/-- A word as a severity is written: stripped, with its first letter capital and the others small. -/
def normalizeSeverity (word : String) : String :=
  String.ofList (Text.capitalize (Text.strip word.toList))

namespace Config

/-- The name under which a configuration is sought. -/
def fileName : String := "snipguard.toml"

def defaultExclude : List String := [".git", "node_modules", "dist", "build", "coverage"]

def defaultExtensions : List String := [".js", ".jsx", ".mjs", ".cjs", ".json"]

/-- The configuration without a file. -/
def default : Config :=
  { exclude := defaultExclude.map .text
    extensions := defaultExtensions.map .text
    maxKilobytes := 1024
    skipGenerated := true
    enabledRules := none
    disabledRules := []
    directives := true
    kind := none
    scheme := .text "lexical"
    gate := .none
    format := .text "json"
    out := none }

/-! ## From a document -/

/-- A rule as a setting names it. -/
def ruleName (s : Setting) : String := String.ofList (Text.upper s.shown.toList)

/-- The rules that a setting names. -/
def ruleNames (s : Setting) : Except Setting.Misfit (List String) := s.items.map (·.map ruleName)

/-- A section of a document; one that is not there is empty. -/
def sectionOf (document : List (String × Setting)) (name : String) : Setting :=
  (document.lookup name).getD (.table [])

/-- The configuration of a document. Places are filled one after the other, and the first setting that
does not fit stops the reading. -/
def ofDocument (document : List (String × Setting)) : Except Setting.Misfit Config := do
  let scan ← (sectionOf document "scan").entries
  let items (name : String) (default : List Setting) : Except Setting.Misfit (List Setting) :=
    match scan.lookup name with
    | some s => s.items
    | none => .ok default
  let flag (entries : List (String × Setting)) (name : String) (default : Bool) : Bool :=
    match entries.lookup name with
    | some s => s.truth
    | none => default
  let exclude ← items "exclude" default.exclude
  let extensions ← items "include_extensions" default.extensions
  let maxKilobytes ← match scan.lookup "max_file_size_kb" with
    | some s => s.toInt
    | none => .ok default.maxKilobytes
  let enabledRules ← match scan.lookup "enabled_rules" with
    | some s => some <$> ruleNames s
    | none => .ok none
  let disabledRules ← match scan.lookup "disabled_rules" with
    | some s => ruleNames s
    | none => .ok []
  let dependencies ← (sectionOf document "dependencies").entries
  let gate ← (sectionOf document "quality_gate").entries
  let report ← (sectionOf document "report").entries
  return {
    exclude, extensions, maxKilobytes
    skipGenerated := flag scan "skip_generated" true
    enabledRules, disabledRules
    directives := flag scan "inline_ignore" true
    kind := scan.lookup "input_type"
    scheme := (dependencies.lookup "version_scheme").getD default.scheme
    gate :=
      { failOn := (gate.lookup "fail_on").map fun s => normalizeSeverity s.shown
        maxIssues := gate.lookup "max_issues"
        maxLow := gate.lookup "max_low"
        maxMedium := gate.lookup "max_medium"
        maxHigh := gate.lookup "max_high"
        maxCritical := gate.lookup "max_critical"
        failOnBrokenSyntax := flag gate "fail_on_syntax_error" false }
    format := (report.lookup "format").getD default.format
    out := report.lookup "out" }

/-! ## Checking -/

/-- Whether a setting is one of some words. -/
def isOneOf (words : List String) : Setting → Bool
  | .text s => words.contains s
  | _ => false

def kinds : List String := ["code", "config", "json"]

def schemes : List String := ["lexical", "semantic"]

def formats : List String := ["json", "sarif"]

/-- The complaint about a limit. -/
def limitErrors (name : String) (limit : Option Setting) : Except Setting.Misfit (List String) :=
  match limit with
  | none => .ok []
  | some s => do if ← s.isNegative then return [name ++ " must be >= 0"] else return []

/-- The rules named in a configuration that do not exist, in order. -/
def unknownRules (c : Config) : List String :=
  Text.distinct (((c.enabledRules.getD []) ++ c.disabledRules).filter fun r => !knownRules.contains r)

/-- What is wrong with a configuration. -/
def check (c : Config) : Except Setting.Misfit (List String) := do
  let expect (ok : Bool) (complaint : String) : List String := if ok then [] else [complaint]
  let oneOf (name : String) (words : List String) : String :=
    name ++ " must be one of: " ++ ", ".intercalate words
  let severities := Severity.all.map (·.name)
  let severity := expect ((c.gate.failOn.map severities.contains).getD true) (oneOf "fail_on" severities)
  let issues ← limitErrors "max_issues" c.gate.maxIssues
  let low ← limitErrors Severity.low.limitName c.gate.maxLow
  let medium ← limitErrors Severity.medium.limitName c.gate.maxMedium
  let high ← limitErrors Severity.high.limitName c.gate.maxHigh
  let critical ← limitErrors Severity.critical.limitName c.gate.maxCritical
  let empty := expect (c.enabledRules != some []) "enabled_rules must be non-empty when set"
  let unknown := c.unknownRules
  let rules := expect unknown.isEmpty ("Unknown rule IDs: " ++ ", ".intercalate unknown)
  let kind := expect ((c.kind.map (isOneOf kinds)).getD true) (oneOf "input_type" kinds)
  let scheme := expect (isOneOf schemes c.scheme) (oneOf "version_scheme" schemes)
  if !c.format.isScalar then throw .notScalar
  let format := expect (isOneOf formats c.format) (oneOf "format" formats)
  return severity ++ issues ++ low ++ medium ++ high ++ critical ++ empty ++ rules ++ kind ++ scheme
    ++ format

end Config

end Advisor
