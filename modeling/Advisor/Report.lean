import Advisor.Gate
import Advisor.Json.Printer
import Advisor.Scan.Rule

/-!
# Reports

A result as a document, either in the plain format or in the exchange format for static analysis,
and the one line that sums it up.
-/

namespace Advisor.Report

/-- The name of the program, as reports and messages give it. -/
def programName : String := "snipguard"

/-- The version of the program. -/
def programVersion : String := "0.3.0"

/-- The formats of a report. -/
inductive Format where
  | plain
  | sarif
  deriving DecidableEq

/-- The format of a name. -/
def Format.ofName? (name : String) : Option Format :=
  if name = "sarif" then some .sarif else if name = "json" then some .plain else none

/-! ## The plain format -/

def placeJson (p : Place) : Json := .object [("line", .int p.line), ("column", .int p.column)]

def findingJson (f : Finding) : Json :=
  .object [("type", .str f.title), ("severity", .str f.severity), ("description", .str f.description),
    ("location", placeJson f.place), ("rule_id", .str f.rule)]

def diagnosticJson (d : Diagnostic) : Json :=
  .object [("line", .int d.place.line), ("column", .int d.place.column), ("message", .str d.message),
    ("type", .str d.title), ("suggestion", .str d.suggestion)]

def validationJson (v : Validation) : Json :=
  .object [("valid", .bool v.valid), ("errors", .list (v.errors.map diagnosticJson))]

/-- The report of a file; the syntax is left out where it was not looked at. -/
def fileJson (f : FileReport) : Json :=
  .object ([("file_path", .str f.path), ("input_type", .str f.kind),
      ("findings", .list (f.findings.map findingJson))]
    ++ (match f.validation with
      | some v => [("syntax", validationJson v)]
      | none => []))

/-- The titles of findings in order, each with the number of its occurrences. -/
def titleCounts (findings : List Finding) : List (String × Nat) :=
  let titles := findings.map (·.title)
  (Text.distinct titles).map fun t => (t, titles.count t)

/-- A result in the plain format. -/
def plain (r : ScanResult) : Json :=
  let findings := r.findings.map (·.2)
  .object [
    ("files_scanned", .int r.filesScanned),
    ("files_with_findings", .int (Text.distinct (r.findings.map (·.1))).length),
    ("findings_total", .int findings.length),
    ("syntax_errors_total", .int r.syntaxErrors.length),
    ("severity_counts",
      .object (Severity.all.map fun s => (s.name, .int (s.count findings)))),
    ("type_counts", .object ((titleCounts findings).map fun (t, n) => (t, .int n))),
    ("files", .list (r.files.map fileJson))]

/-! ## The exchange format -/

/-- The level of a severity. -/
def level (severity : String) : String :=
  match Severity.ofName? severity with
  | some .low => "note"
  | some .high => "error"
  | some .critical => "error"
  | _ => "warning"

/-- A place in a file. Regions count from 1; there is none if the place is unknown. -/
def locationJson (path : String) (p : Place) : Json :=
  let region := if 0 < p.line then
      [("region", Json.object [("startLine", .int p.line), ("startColumn", .int (p.column + 1))])]
    else []
  .object [("physicalLocation",
    .object ([("artifactLocation", Json.object [("uri", .str path)])] ++ region))]

/-- One result. -/
def resultJson (rule level text path : String) (p : Place) : Json :=
  .object [("ruleId", .str rule), ("level", .str level), ("message", .object [("text", .str text)]),
    ("locations", .list [locationJson path p])]

/-- A result in the exchange format: the findings, then the syntax errors. -/
def sarif (r : ScanResult) : Json :=
  let findings := r.findings.map fun (path, f) =>
    resultJson f.rule (level f.severity) (f.title ++ ": " ++ f.description) path f.place
  let errors := r.syntaxErrors.map fun (path, d) =>
    resultJson syntaxRule "error" (d.message ++ ". " ++ d.suggestion) path d.place
  .object [
    ("$schema", .str "https://json.schemastore.org/sarif-2.1.0.json"),
    ("version", .str "2.1.0"),
    ("runs", .list [.object [
      ("tool", .object [("driver",
        .object [("name", .str programName), ("version", .str programVersion)])]),
      ("results", .list (findings ++ errors))]])]

/-- A result in a format. -/
def payload (f : Format) (r : ScanResult) : Json :=
  match f with
  | .plain => plain r
  | .sarif => sarif r

/-- The text of a report. -/
def text (f : Format) (r : ScanResult) : String := (payload f r).render

/-! ## The summary -/

/-- Counts one more occurrence of a word. -/
def countOneMore (word : String) : List (String × Nat) → List (String × Nat)
  | [] => [(word, 1)]
  | (w, n) :: rest => if w = word then (w, n + 1) :: rest else (w, n) :: countOneMore word rest

/-- All that has been counted. -/
def total : List (String × Nat) → Nat
  | [] => 0
  | (_, n) :: rest => n + total rest

/-- The severities of findings, in the order in which they turn up, each with the number of its
occurrences. -/
def severityCounts (findings : List Finding) : List (String × Nat) :=
  findings.foldl (fun counts f => countOneMore f.severity counts) []

/-- The line that sums up a result. -/
def summary (r : ScanResult) : String :=
  let counts := severityCounts (r.findings.map (·.2))
  let count (s : Severity) : String := ((counts.lookup s.name).getD 0).repr
  "[summary] files=" ++ r.filesScanned.repr ++ " findings=" ++ (total counts).repr
    ++ " low=" ++ count .low ++ " medium=" ++ count .medium ++ " high=" ++ count .high
    ++ " critical=" ++ count .critical ++ " syntax_errors=" ++ r.syntaxErrors.length.repr

end Advisor.Report
