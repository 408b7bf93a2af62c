/-!
# Findings and reports

What a scan says about a text: `Finding`s of the rules, and a `Validation` of its syntax with at most
one `Diagnostic`. A `FileReport` holds both for one file, and a `ScanResult` the reports of all files.
-/

namespace Advisor

/-- A place in a text. Lines count from 1, columns from 0; line 0 is no place at all. -/
structure Place where
  line : Int
  column : Int
  deriving DecidableEq, Inhabited

/-- The place of what has none. -/
def Place.unknown : Place := ⟨0, 0⟩

/-- Something a rule objects to. -/
structure Finding where
  title : String
  severity : String
  description : String
  place : Place
  rule : String
  deriving DecidableEq, Inhabited

/-- A place where the syntax is broken. -/
structure Diagnostic where
  place : Place
  message : String
  suggestion : String
  title : String
  deriving DecidableEq, Inhabited

/-- Whether a text is well-formed, and if not, where it breaks. -/
structure Validation where
  valid : Bool
  errors : List Diagnostic
  deriving DecidableEq, Inhabited

/-- Nothing to object to. -/
def Validation.accepted : Validation := ⟨true, []⟩

/-- What a scan says about one file. The syntax is missing where it was not looked at. -/
structure FileReport where
  path : String
  kind : String
  findings : List Finding
  validation : Option Validation
  deriving DecidableEq, Inhabited

/-- What a scan says about all files. -/
structure ScanResult where
  files : List FileReport
  filesScanned : Int
  deriving DecidableEq, Inhabited

namespace ScanResult

/-- All findings, each with its file. -/
def findings (r : ScanResult) : List (String × Finding) :=
  r.files.flatMap fun f => f.findings.map (f.path, ·)

/-- All syntax errors, each with its file. -/
def syntaxErrors (r : ScanResult) : List (String × Diagnostic) :=
  r.files.flatMap fun f =>
    match f.validation with
    | some v => v.errors.map (f.path, ·)
    | none => []

end ScanResult

end Advisor
