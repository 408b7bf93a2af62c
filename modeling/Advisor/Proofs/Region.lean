import Advisor.Proofs.AfterScan
import Advisor.Proofs.QuotedToken
import Advisor.Proofs.ScriptRows
import Advisor.Proofs.Tally

/-!
# Regions in the exchange format

A line of 0 means that there is no place, columns count from 0, and regions count from 1. What a
scan says of a text comes from three producers, each with a convention of its own for places:
`placed_of_scanText` brings them together. `wellPlaced_of_scan` reads the report again, and finds
each result with a rule that exists, and with a region of the text exactly if the rule is one that
has a place.
-/

namespace Advisor

/-- How many lines a text has. -/
def lineCount (source : String) : Nat := (source.toList.splitOn '\n').length

/-! ## What a scan says of places -/

/-- **A rule speaks of a place in a text of some lines**: it exists, and it has a place in the text,
unless it is one of the two that never have any. -/
def Placed (lines : Nat) (rule : String) (p : Place) : Prop :=
  rule ∈ knownRules ∧
    (((rule = dependencyRule ∨ rule = unreadableRule) ∧ p = .unknown) ∨
      ((rule ≠ dependencyRule ∧ rule ≠ unreadableRule) ∧
        1 ≤ p.line ∧ p.line ≤ lines ∧ 0 ≤ p.column))

/-- All that is said of a file is placed in its text. -/
structure FileReport.Placed (lines : Nat) (x : FileReport) : Prop where
  findings : ∀ f ∈ x.findings, Advisor.Placed lines f.rule f.place
  errors : ∀ v, x.validation = some v → ∀ d ∈ v.errors, Advisor.Placed lines syntaxRule d.place

theorem le_lineCount_of_mem_numberedLines {source : String} {line : List Char} {n : Nat}
    (h : (line, n) ∈ numberedLines source) : 1 ≤ n ∧ n ≤ lineCount source := by
  obtain ⟨hpos, hget⟩ := List.mk_mem_zipIdx_iff_le_and_getElem?_sub.mp h
  have hlt := (List.getElem?_eq_some_iff.mp hget).1
  rw [lineCount]
  omega

/-- The rules for weaknesses exist, and they are none of the two without a place. -/
theorem Weakness.known_of_mem_rules : ∀ r ∈ Weakness.rules,
    r.id ∈ knownRules ∧ r.id ≠ dependencyRule ∧ r.id ≠ unreadableRule := by
  decide

theorem Weakness.placed_of_mem_findings {source : String} {f : Finding}
    (hf : f ∈ findings rules source) : Placed (lineCount source) f.rule f.place := by
  rw [findings, findingsBy, zipIdx_splitOn_eq] at hf
  obtain ⟨⟨line, n⟩, hline, hf⟩ := List.mem_flatMap.mp hf
  obtain ⟨r, hr, rfl⟩ := List.mem_map.mp hf
  obtain ⟨hknown, hrule⟩ := known_of_mem_rules r (List.mem_filter.mp hr).1
  have hbounds := le_lineCount_of_mem_numberedLines hline
  refine ⟨hknown, .inr ⟨hrule, ?_⟩⟩
  simp only [report]
  omega

theorem Manifest.placed_of_mem_findings {lines : Nat} {content : Option String} {kind : String}
    {scheme : VersionScheme} {nesting : Nat} {outcome : ManifestOutcome}
    (h : (check content kind scheme nesting).1 = .ok outcome) {f : Finding}
    (hf : f ∈ outcome.findings) :
    Placed lines f.rule f.place := by
  obtain ⟨hrule, hplace⟩ := rule_and_place_of_mem_findings h f hf
  rw [hrule, hplace]
  exact ⟨by decide, .inl ⟨.inl rfl, rfl⟩⟩

theorem Diagnosis.placed_of_mem_errors {parse : String → SyntaxTree} (hparse : KeepsRows parse)
    {code : String} {markup : Bool} {d : Diagnostic}
    (hd : d ∈ (validate parse code markup).errors) : Placed (lineCount code) syntaxRule d.place :=
  ⟨by decide, .inr ⟨by decide, placed_of_validate hparse hd⟩⟩

/-- The findings of all checks are placed in the text, and so are the errors of its syntax. -/
theorem Analysis.placed_of_run {parse : String → SyntaxTree} (hparse : Diagnosis.KeepsRows parse)
    {nesting : Nat} {source kind : String} {scheme : VersionScheme} {validate markup : Bool}
    {a : Analysis}
    (h : (Analysis.run parse nesting (some source) kind scheme validate markup).1 = .ok a) :
    (∀ f ∈ a.findings, Placed (lineCount source) f.rule f.place) ∧
      ∀ v, a.validation = some v →
        ∀ d ∈ v.errors, Placed (lineCount source) syntaxRule d.place := by
  rw [Analysis.run] at h
  split at h
  · cases h
    refine ⟨fun f => Weakness.placed_of_mem_findings, fun v hv d hd => ?_⟩
    cases validate with
    | false => cases hv
    | true =>
      cases hv
      exact Diagnosis.placed_of_mem_errors hparse hd
  · split at h
    · cases hcheck : (Manifest.check (some source) kind scheme nesting).1 with
      | error fault =>
        simp only [hcheck] at h
        cases h
      | ok outcome =>
        simp only [hcheck] at h
        cases h
        exact ⟨fun f => Manifest.placed_of_mem_findings hcheck, by simp⟩
    · cases h
      exact ⟨by simp, by simp⟩

/-- **What a scan says of a text is placed in it.** -/
theorem placed_of_scanText {s : TextSettings} (hparse : Diagnosis.KeepsRows s.parse)
    {source kind path : String} {x : FileReport}
    (h : (scanText s (some source) kind path).1 = .ok x) : x.Placed (lineCount source) := by
  simp only [scanText] at h
  split at h
  · cases h
  · rename_i a ha
    obtain ⟨hfindings, herrors⟩ := Analysis.placed_of_run hparse ha
    split at h
    · cases h
    · cases h
      exact ⟨fun f hf => hfindings f (List.mem_filter.mp hf).1, herrors⟩

/-- And so is what is said of a file that is opened, or else that it cannot be read. -/
theorem Scan.placed_of_selected {w : World} {s : ScanSettings}
    (hparse : Diagnosis.KeepsRows s.text.parse) {place base : List String}
    {c : List String × String} (hc : target? w s place = some c) {x : FileReport}
    (h : (selected w s base c.1 c.2).1 = .ok x) :
    ∃ real bytes fault, w.find? (Selection.pathOf c.1) = some (real, .file bytes fault) ∧
      x.Placed (lineCount (contentOf bytes)) := by
  rcases selected_cases hc base with ⟨real, bytes, reason, hfind, hsel⟩ | ⟨real, bytes, hfind, hsel⟩
  · rw [hsel] at h
    cases h
    have hknown : unreadableRule ∈ knownRules := by decide
    refine ⟨real, bytes, some reason, hfind, List.forall_mem_singleton.mpr ?_, by simp [unreadable]⟩
    exact ⟨hknown, .inl ⟨.inr rfl, rfl⟩⟩
  · rw [hsel] at h
    exact ⟨real, bytes, none, hfind, placed_of_scanText (s := textSettings s c.1) hparse h⟩

/-! ## Reading the report -/

/-- The items of a list. -/
def Json.items? : Json → Option (List Json)
  | list items => some items
  | _ => none

namespace Report

/-- The results that a report in the exchange format lists. -/
def listed? (report : Json) : Option (List Json) := do
  let runs ← report.member? "runs"
  let run ← (← runs.items?).head?
  (← run.member? "results").items?

/-- The region of a result. -/
def region? (result : Json) : Option Json := do
  let locations ← result.member? "locations"
  let location ← (← locations.items?).head?
  (← location.member? "physicalLocation").member? "region"

/-- **A result is well placed in a text of some lines.** Its rule exists, there is a region exactly
if the rule is none of the two without a place, and the region begins in the text. -/
structure WellPlaced (lines : Nat) (result : Json) : Prop where
  rule : ∃ rule ∈ knownRules, result.member? "ruleId" = some (.str rule) ∧
    ((region? result).isSome ↔ rule ≠ dependencyRule ∧ rule ≠ unreadableRule)
  region : ∀ region, region? result = some region → ∃ line column : Int,
    region.member? "startLine" = some (.int line) ∧
    region.member? "startColumn" = some (.int column) ∧ 1 ≤ line ∧ line ≤ lines ∧ 1 ≤ column

/-- The results for the findings of a file. -/
def findingResults (x : FileReport) : List Json :=
  x.findings.map fun f =>
    resultJson f.rule (level f.severity) (f.title ++ ": " ++ f.description) x.path f.place

/-- The results for the syntax errors of a file. -/
def errorResults (x : FileReport) : List Json :=
  ((x.validation.map (·.errors)).getD []).map fun d =>
    resultJson syntaxRule "error" (d.message ++ ". " ++ d.suggestion) x.path d.place

/-- **What is listed**: the findings of all files, then the syntax errors of all files. -/
theorem listed?_sarif (r : ScanResult) :
    listed? (sarif r) = some (r.files.flatMap findingResults ++ r.files.flatMap errorResults) := by
  have hfindings : r.findings.map (fun x => resultJson x.2.rule (level x.2.severity)
      (x.2.title ++ ": " ++ x.2.description) x.1 x.2.place) = r.files.flatMap findingResults := by
    rw [ScanResult.findings, List.map_flatMap]
    refine List.flatMap_congr fun x _ => ?_
    rw [findingResults, List.map_map]
    rfl
  have herrors : r.syntaxErrors.map (fun x => resultJson syntaxRule "error"
      (x.2.message ++ ". " ++ x.2.suggestion) x.1 x.2.place) = r.files.flatMap errorResults := by
    rw [ScanResult.syntaxErrors, List.map_flatMap]
    refine List.flatMap_congr fun x _ => ?_
    rw [errorResults]
    cases x.validation with
    | none => rfl
    | some v =>
      rw [List.map_map]
      rfl
  rw [← hfindings, ← herrors]
  rfl

theorem region?_resultJson (rule level text path : String) (p : Place) :
    region? (resultJson rule level text path p) =
      if 0 < p.line then
        some (.object [("startLine", .int p.line), ("startColumn", .int (p.column + 1))])
      else none := by
  by_cases h : 0 < p.line
  · simp only [resultJson, locationJson, if_pos h]
    rfl
  · simp only [resultJson, locationJson, if_neg h]
    rfl

theorem wellPlaced_resultJson {lines : Nat} {rule : String} {p : Place} (h : Placed lines rule p)
    (level text path : String) : WellPlaced lines (resultJson rule level text path p) := by
  obtain ⟨hknown, ⟨hrule, rfl⟩ | ⟨hrule, hline, hlines, hcolumn⟩⟩ := h
  · have hnone : region? (resultJson rule level text path .unknown) = none := by
      rw [region?_resultJson]
      rfl
    refine ⟨⟨rule, hknown, rfl, ?_⟩, ?_⟩
    · rw [hnone]
      rcases hrule with rfl | rfl <;> simp
    · intro region hregion
      rw [hnone] at hregion
      cases hregion
  · have hsome : region? (resultJson rule level text path p) =
        some (.object [("startLine", .int p.line), ("startColumn", .int (p.column + 1))]) := by
      rw [region?_resultJson, if_pos (by omega)]
    refine ⟨⟨rule, hknown, rfl, ?_⟩, ?_⟩
    · rw [hsome]
      exact iff_of_true rfl hrule
    · intro region hregion
      rw [hsome] at hregion
      cases hregion
      exact ⟨p.line, p.column + 1, rfl, rfl, hline, hlines, by omega⟩

/-- The results for a file are well placed in its text. -/
theorem wellPlaced_of_placed {lines : Nat} {x : FileReport} (h : x.Placed lines) :
    ∀ v ∈ findingResults x ++ errorResults x, WellPlaced lines v := by
  refine List.forall_mem_append.mpr ⟨List.forall_mem_map.mpr fun f hf => ?_,
    List.forall_mem_map.mpr fun d hd => ?_⟩
  · exact wellPlaced_resultJson (h.findings f hf) _ _ _
  · cases hv : x.validation with
    | none =>
      rw [hv] at hd
      cases hd
    | some v =>
      rw [hv] at hd
      exact wellPlaced_resultJson (h.errors v hv d hd) _ _ _

/-- **Every result of a scan is well placed.** The report lists the findings in the order of the
files, then the syntax errors in the order of the files. If the files were scanned in a folder, the
results for each are well placed in the content of the file that was opened for it, and if one text
was scanned, the results are well placed in that text. All this holds with any parser that keeps to
the rows of its text, and the parser of scripts does. -/
theorem wellPlaced_of_scan (r : ScanResult) :
    listed? (sarif r) = some (r.files.flatMap findingResults ++ r.files.flatMap errorResults) ∧
    (∀ (w : World) (s : ScanSettings) (root : PathName), Diagnosis.KeepsRows s.text.parse →
      (Scan.files w s root).1 = .ok r →
      ∃ place, w.resolve root = .ok place ∧
        List.Forall₂ (fun c x => ∃ real bytes fault,
            w.find? (Selection.pathOf c.1) = some (real, .file bytes fault) ∧
            ∀ v ∈ findingResults x ++ errorResults x,
              WellPlaced (lineCount (Scan.contentOf bytes)) v)
          (Scan.targets w s place) r.files) ∧
    (∀ (s : TextSettings) (source kind path : String) (x : FileReport),
      Diagnosis.KeepsRows s.parse →
      (scanText s (some source) kind path).1 = .ok x → r = { files := [x], filesScanned := 1 } →
        ∀ v ∈ findingResults x ++ errorResults x, WellPlaced (lineCount source) v) ∧
    Diagnosis.KeepsRows Script.parse := by
  refine ⟨listed?_sarif r, fun w s root hparse h => ?_, fun s source kind path x hparse h _ => ?_,
    Script.keepsRows_parse⟩
  · obtain ⟨place, hplace, hreports, -⟩ := Scan.files_eq_ok_iff.mp h
    have hopened : ∀ c ∈ Scan.targets w s place, ∃ p, Scan.target? w s p = some c := by
      intro c hc
      obtain ⟨p, -, ht⟩ := Scan.exists_target?_of_mem_targets hc
      exact ⟨p, ht⟩
    refine ⟨place, hplace, ((List.forall₂_and_left _ _).mpr ⟨hopened, hreports⟩).imp ?_⟩
    rintro c x ⟨⟨p, ht⟩, hsel⟩
    obtain ⟨real, bytes, fault, hfind, hx⟩ := Scan.placed_of_selected hparse ht hsel
    exact ⟨real, bytes, fault, hfind, wellPlaced_of_placed hx⟩
  · exact wellPlaced_of_placed (placed_of_scanText hparse h)

/-- A parser that misses a bracket at a place in the last line of every text. -/
def missingBracket (startByte byteColumn : Nat) (code : String) : SyntaxTree :=
  .node { kind := "program", startByte := 0, endByte := startByte, row := 0, byteColumn := 0
          missing := false, hasError := true }
    [.node { kind := ")", startByte, endByte := startByte, row := code.toList.count '\n', byteColumn
             missing := true, hasError := true } []]

theorem keepsRows_missingBracket (startByte byteColumn : Nat) :
    Diagnosis.KeepsRows (missingBracket startByte byteColumn) := by
  intro code
  have hlines : (code.toList.splitOn '\n').length = code.toList.count '\n' + 1 := by
    rw [← Text.splitOn_eq_list_splitOn, Text.length_splitOn]
  rw [hlines]
  refine SyntaxTree.everywhere_node (Nat.succ_pos _) (List.forall_mem_singleton.mpr ?_)
  exact SyntaxTree.everywhere_node (Nat.lt_succ_self _) (by simp)

/-- A scan of code with that parser. -/
def missingAtEnd : TextSettings :=
  { (Scan.filteredBy .everything).text with markup := true, parse := missingBracket 17 15 }

/-- Two lines with a weakness in the second, which also lacks a bracket. -/
def openCall : String := "a\nf(Math.random()"

/-- The bracket that is missing. -/
def missingNode : Spot := ⟨.node ⟨")", 17, 17, 1, 15, true, true⟩ [], ["program"]⟩

theorem validate_openCall :
    ∃ d, (Diagnosis.validate missingAtEnd.parse openCall true).errors = [d] ∧
      d.place = ⟨2, 15⟩ := by
  have herror : Diagnosis.error? (missingBracket 17 15 openCall) = some missingNode := by cbv
  have hposition : Diagnosis.position missingNode = missingNode := by cbv
  have hcolumn : (Text.decode (Text.sliceBytes openCall.toUTF8 2 17).toList).length = 15 := by cbv
  have hparse : missingAtEnd.parse openCall = missingBracket 17 15 openCall := rfl
  rw [Diagnosis.validate_of_ne_empty (by decide), hparse,
    Diagnosis.judge_of_error herror (by simp [Diagnosis.markup?]), hposition]
  exact ⟨_, rfl, congrArg (fun n : Nat => (⟨2, n⟩ : Place)) hcolumn⟩

/-- The finding and the syntax error have regions in the second line, and a file that cannot be read
is well placed without one. -/
theorem wellPlaced_of_openCall :
    Diagnosis.KeepsRows missingAtEnd.parse ∧
    (∃ x v d, (scanText missingAtEnd (some openCall) "code" "<stdin>").1 = .ok x ∧
      x.findings = [Weakness.report Weakness.rules[3] 2] ∧ x.validation = some v ∧
      v.errors = [d] ∧ d.place = ⟨2, 15⟩ ∧
      ∀ v ∈ findingResults x ++ errorResults x, WellPlaced 2 v) ∧
    (Scan.files Scan.locked (Scan.filteredBy .everything) ⟨"", []⟩).1 =
      .ok { files := [Scan.unreadable "a.js" "code" "denied"], filesScanned := 1 } ∧
    ∃ c real bytes fault, Scan.locked.find? (Selection.pathOf c) = some (real, .file bytes fault) ∧
      ∀ v ∈ findingResults (Scan.unreadable "a.js" "code" "denied") ++
          errorResults (Scan.unreadable "a.js" "code" "denied"),
        WellPlaced (lineCount (Scan.contentOf bytes)) v := by
  have hkeeps : Diagnosis.KeepsRows missingAtEnd.parse := keepsRows_missingBracket 17 15
  have hlines : lineCount openCall = 2 := by decide
  have hfindings : missingAtEnd.codeFindings openCall = [Weakness.report Weakness.rules[3] 2] := by
    rw [← TextSettings.filter_keeps_weaknesses]
    cbv
  have hsyntax : missingAtEnd.rules.Passes syntaxRule := by decide
  obtain ⟨d, hd, hplace⟩ := validate_openCall
  have hscan : (scanText missingAtEnd (some openCall) "code" "<stdin>").1 = .ok
      { path := "<stdin>", kind := "code", findings := [Weakness.report Weakness.rules[3] 2]
        validation := some (Diagnosis.validate missingAtEnd.parse openCall true) } := by
    rw [scanText_eq, if_pos rfl, hfindings, if_pos hsyntax]
    rfl
  have htext := (wellPlaced_of_scan _).2.2.1 _ _ _ _ _ hkeeps hscan rfl
  rw [hlines] at htext
  have hfiles := Scan.files_locked .everything
  obtain ⟨place, -, hreports⟩ := (wellPlaced_of_scan _).2.1 _ _ _ Script.keepsRows_parse hfiles
  obtain ⟨c, -, real, bytes, fault, hfind, hplaced⟩ :=
    exists_mem_of_forall₂ (R := flip _) hreports.flip _ List.mem_cons_self
  exact ⟨hkeeps, ⟨_, _, d, hscan, rfl, rfl, hd, hplace, htext⟩, hfiles, c.1, real, bytes, fault,
    hfind, hplaced⟩

end Report

end Advisor
