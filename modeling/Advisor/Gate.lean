import Advisor.Config.Setting
import Advisor.Severity
import Advisor.Text.Sorted

/-!
# The quality gate

Decides whether a result passes: by the worst severity, by the number of findings, by the number of
each severity and by broken syntax. Every condition that fails gives one reason.
-/

namespace Advisor

/-- The conditions of the gate. A limit may be of any kind that can be compared with a number. -/
structure Gate where
  failOn : Option String
  maxIssues : Option Setting
  maxLow : Option Setting
  maxMedium : Option Setting
  maxHigh : Option Setting
  maxCritical : Option Setting
  failOnBrokenSyntax : Bool
  deriving Inhabited

/-- Why the gate cannot decide. -/
inductive GateFault where
  | unknownSeverity (name : String)
  | notComparable
  deriving DecidableEq

namespace Gate

/-- The gate that everything passes. -/
def none : Gate := ⟨.none, .none, .none, .none, .none, .none, false⟩

/-- The limit on a severity. -/
def limit (g : Gate) : Severity → Option Setting
  | .low => g.maxLow
  | .medium => g.maxMedium
  | .high => g.maxHigh
  | .critical => g.maxCritical

/-- The rank of a severity by its name. -/
def rankOf (name : String) : Except GateFault Nat :=
  match Severity.ofName? name with
  | some s => .ok s.rank
  | .none => .error (.unknownSeverity name)

/-- Whether a finding is as bad as a rank, looking from the first on. -/
def reaches (rank : Nat) : List Finding → Except GateFault Bool
  | [] => .ok false
  | f :: rest => do
    if rank ≤ (← rankOf f.severity) then return true else reaches rank rest

/-- Whether a count exceeds a limit. -/
def exceeds (count : Nat) (limit : Setting) : Except GateFault Bool :=
  match limit.isBelow count with
  | .ok b => .ok b
  | .error _ => .error .notComparable

/-- The reason for the worst severity. -/
def severityReason (g : Gate) (findings : List Finding) : Except GateFault (List String) :=
  match g.failOn with
  | .none => .ok []
  | some name => do
    if ← reaches (← rankOf name) findings then
      return ["Detected finding severity >= '" ++ name ++ "'"]
    else return []

/-- The reason for the number of findings. -/
def countReason (g : Gate) (findings : List Finding) : Except GateFault (List String) :=
  match g.maxIssues with
  | .none => .ok []
  | some limit => do
    if ← exceeds findings.length limit then
      return ["Finding count " ++ findings.length.repr ++ " exceeds max_issues=" ++ limit.shown]
    else return []

/-- The reason for the number of findings of one severity. -/
def limitReason (g : Gate) (findings : List Finding) (s : Severity) : Except GateFault (List String) :=
  match g.limit s with
  | .none => .ok []
  | some limit => do
    let count := s.count findings
    if ← exceeds count limit then
      return [s.name ++ " finding count " ++ count.repr ++ " exceeds " ++ s.limitName ++ "="
        ++ limit.shown]
    else return []

/-- The reason for broken syntax. -/
def brokenReason (g : Gate) (r : ScanResult) : List String :=
  if g.failOnBrokenSyntax then
    match Text.distinct (r.syntaxErrors.map (·.1)) with
    | [] => []
    | files =>
      ["Syntax errors in " ++ files.length.repr ++ " file(s): " ++ ", ".intercalate files]
  else []

/-- The reasons why a result does not pass. -/
def reasons (g : Gate) (r : ScanResult) : Except GateFault (List String) := do
  let findings := r.findings.map (·.2)
  let worst ← g.severityReason findings
  let total ← g.countReason findings
  let low ← g.limitReason findings .low
  let medium ← g.limitReason findings .medium
  let high ← g.limitReason findings .high
  let critical ← g.limitReason findings .critical
  return worst ++ total ++ low ++ medium ++ high ++ critical ++ g.brokenReason r

end Gate

end Advisor
