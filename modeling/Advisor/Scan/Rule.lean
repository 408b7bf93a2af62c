import Advisor.Weakness

/-!
# Rules of a scan

The rules by their identifiers, and the filter that lets only some of them report.
-/

namespace Advisor

/-- Broken syntax. -/
def syntaxRule : String := "SG001"

/-- Dependencies with known vulnerabilities. -/
def dependencyRule : String := "SG201"

/-- Files that cannot be read. -/
def unreadableRule : String := "SG900"

/-- The identifiers of all rules. -/
def knownRules : List String :=
  [syntaxRule, dependencyRule, unreadableRule] ++ Weakness.rules.map (·.id)

/-- Which rules may report. If no rule is enabled by name, all are. -/
structure RuleFilter where
  enabled : List String
  disabled : List String
  deriving DecidableEq, Inhabited

namespace RuleFilter

/-- Lets all rules report. -/
def everything : RuleFilter := ⟨[], []⟩

/-- Whether a rule may report. -/
def allows (f : RuleFilter) (rule : String) : Bool :=
  !f.disabled.contains rule && (f.enabled.isEmpty || f.enabled.contains rule)

end RuleFilter

end Advisor
