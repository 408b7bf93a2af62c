import Advisor.CommandLine.Arguments

/-!
# A configuration under a command line

What the command line mentions goes before what the configuration says. Lists grow, and everything
else is replaced.
-/

namespace Advisor.Config

/-- Settings without those that are the same as an earlier one. -/
def distinctSettings (settings : List Setting) : List Setting := go settings []
where
  /-- Goes through settings, with those kept so far in reverse. -/
  go : List Setting → List Setting → List Setting
    | [], kept => kept.reverse
    | s :: rest, kept => if kept.any (Setting.same s) then go rest kept else go rest (s :: kept)

/-- Settings with words added, each kept once. There may be no list or table among them. -/
def extend (settings : List Setting) (words : List String) : Except Setting.Misfit (List Setting) :=
  if words.isEmpty then .ok settings
  else if settings.all Setting.isScalar then .ok (distinctSettings (settings ++ words.map .text))
  else .error .notScalar

/-- Rules with others added, each kept once. -/
def extendRules (rules words : List String) : List String :=
  (rules ++ words.map fun w => String.ofList (Text.upper w.toList)).eraseDups

/-- A text, if it is there and not empty. -/
def nonEmpty (s : Option String) : Option Setting := (s.filter fun t => !t.isEmpty).map .text

/-- A limit from the command line, or else the old one. -/
def limitOr (i : Option Int) (old : Option Setting) : Option Setting := (i.map .int) <|> old

/-- The gate under a command line. -/
def mergeGate (g : Gate) (a : ScanArguments) : Gate :=
  { failOn := (a.failOn.filter fun t => !t.isEmpty) <|> g.failOn
    maxIssues := limitOr a.maxIssues g.maxIssues
    maxLow := limitOr a.maxLow g.maxLow
    maxMedium := limitOr a.maxMedium g.maxMedium
    maxHigh := limitOr a.maxHigh g.maxHigh
    maxCritical := limitOr a.maxCritical g.maxCritical
    failOnBrokenSyntax := g.failOnBrokenSyntax || a.failOnBrokenSyntax }

/-- What the command line changes besides the lists of settings. -/
def mergeRest (c : Config) (a : ScanArguments) : Config :=
  { c with
    enabledRules := if a.enabledRules.isEmpty then c.enabledRules
      else some (extendRules (c.enabledRules.getD []) a.enabledRules)
    disabledRules := if a.disabledRules.isEmpty then c.disabledRules
      else extendRules c.disabledRules a.disabledRules
    directives := c.directives && !a.ignoreDirectives
    skipGenerated := c.skipGenerated && !a.includeGenerated
    maxKilobytes := a.maxKilobytes.getD c.maxKilobytes
    kind := nonEmpty a.kind <|> c.kind
    scheme := (nonEmpty a.scheme).getD c.scheme
    format := (nonEmpty a.format).getD c.format
    out := nonEmpty a.out <|> c.out
    gate := mergeGate c.gate a }

/-- Puts a command line over a configuration. If a list does not take the words, the configuration
keeps what was put over it before. -/
def merge (c : Config) (a : ScanArguments) : Config × Option Setting.Misfit :=
  match extend c.exclude a.exclude with
  | .error m => (c, some m)
  | .ok exclude =>
    match extend c.extensions a.extensions with
    | .error m => ({ c with exclude }, some m)
    | .ok extensions => (mergeRest { c with exclude, extensions } a, none)

end Advisor.Config
