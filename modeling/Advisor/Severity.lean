import Advisor.Finding

/-!
# Severities

The four severities in their order, and how often each occurs among findings. Findings may carry
other words as well, which count for none of the four.
-/

namespace Advisor

/-- How bad a finding is. -/
inductive Severity where
  | low
  | medium
  | high
  | critical
  deriving DecidableEq, Inhabited

namespace Severity

def all : List Severity := [low, medium, high, critical]

def name : Severity → String
  | low => "Low"
  | medium => "Medium"
  | high => "High"
  | critical => "Critical"

/-- What the limit on findings of a severity is called. -/
def limitName : Severity → String
  | low => "max_low"
  | medium => "max_medium"
  | high => "max_high"
  | critical => "max_critical"

def rank : Severity → Nat
  | low => 1
  | medium => 2
  | high => 3
  | critical => 4

/-- The severity of a name. -/
def ofName? (name : String) : Option Severity := all.find? (·.name == name)

theorem ofName?_name (s : Severity) : ofName? s.name = some s := by
  cases s <;> rfl

/-- How many findings have a severity. -/
def count (s : Severity) (findings : List Finding) : Nat := findings.countP (·.severity == s.name)

end Severity

end Advisor
