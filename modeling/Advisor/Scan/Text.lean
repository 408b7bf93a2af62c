import Advisor.Scan.Analysis
import Advisor.Scan.Rule
import Advisor.Suppression

/-!
# Scanning one text

An analysis reduced to the rules that may report and to the findings that no directive in their line
suppresses.
-/

namespace Advisor

/-- What a scan of texts depends on. -/
structure TextSettings where
  rules : RuleFilter
  /-- Whether directives in the text are heeded. -/
  directives : Bool
  scheme : VersionScheme
  /-- Whether markup is allowed in code. -/
  markup : Bool
  /-- How deep a manifest may be nested. -/
  nesting : Nat
  /-- What makes a tree of code. -/
  parse : String → SyntaxTree
  deriving Inhabited

/-- Why a scan breaks off. -/
inductive ScanFault where
  | manifest (f : ManifestFault)
  /-- Directives cannot be sought in content that is no text. -/
  | notText
  /-- The path that is to be scanned is a loop of links. -/
  | linkLoop
  deriving DecidableEq

namespace TextSettings

/-- Whether a finding is kept. -/
def keeps (s : TextSettings) (directives : List (Nat × Suppression)) (f : Finding) : Bool :=
  s.rules.allows f.rule &&
    !(directives.any fun (line, d) => (line : Int) == f.place.line && d.covers f.rule)

end TextSettings

/-- Scans one text. -/
def scanText (s : TextSettings) (content : Option String) (kind path : String) :
    Except ScanFault FileReport × List ManifestNote :=
  let (r, notes) :=
    Analysis.run s.parse s.nesting content kind s.scheme (s.rules.allows syntaxRule) s.markup
  match r with
  | .error f => (.error (.manifest f), notes)
  | .ok a =>
    let directives : Option (List (Nat × Suppression)) :=
      if s.directives then content.map Suppression.ofSource else some []
    match directives with
    | none => (.error .notText, notes)
    | some ds =>
      (.ok { path, kind, findings := a.findings.filter (s.keeps ds), validation := a.validation }, notes)

end Advisor
