import Advisor.CommandLine.Run
import Advisor.Proofs.ConfigCheck
import Advisor.Proofs.FileScan

/-!
# After a scan

What is left to do after a scan looks up severities by their names and compares settings with
counts, and either may fail. `Produced.graded` says that no scan produces a finding without one of
the four severities, and `Config.Checked` that limits can be compared: together they give
`report_of_checked`, that a run with a checked configuration is not broken off by its report or its
gate.
-/

namespace Advisor

/-! ## The severities of findings -/

/-- A finding has one of the four severities. -/
def Finding.Graded (f : Finding) : Prop := Severity.IsName f.severity

/-- All rules for weaknesses have one of the four severities. -/
theorem Weakness.isName_severity : ∀ r ∈ Weakness.rules, Severity.IsName r.severity := by
  decide

theorem Weakness.graded_of_mem_findings {source : String} :
    ∀ f ∈ findings rules source, f.Graded := by
  intro f hf
  obtain ⟨⟨line, number⟩, -, hline⟩ := List.mem_flatMap.mp hf
  obtain ⟨r, hr, rfl⟩ := List.mem_map.mp hline
  exact isName_severity r (List.mem_filter.mp hr).1

namespace Manifest

/-- And so have all advisories. -/
theorem isName_severity : ∀ a ∈ advisories, Severity.IsName a.severity := by
  decide

theorem graded_of_mem_findings {content : Option String} {kind : String} {scheme : VersionScheme}
    {nesting : Nat} {outcome : ManifestOutcome}
    (h : (check content kind scheme nesting).1 = .ok outcome) :
    ∀ f ∈ outcome.findings, f.Graded := by
  intro f hf
  obtain ⟨d, hd⟩ := exists_finding?_of_mem_findings h f hf
  obtain ⟨a, ha, hf⟩ := Option.bind_eq_some_iff.mp hd
  split at hf
  · cases hf
    exact isName_severity a (List.mem_of_find?_eq_some ha)
  · cases hf

end Manifest

theorem Analysis.graded_of_run {parse : String → SyntaxTree} {nesting : Nat}
    {content : Option String} {kind : String} {scheme : VersionScheme} {validate markup : Bool}
    {a : Analysis}
    (h : (Analysis.run parse nesting content kind scheme validate markup).1 = .ok a) :
    ∀ f ∈ a.findings, f.Graded := by
  rw [Analysis.run] at h
  split at h
  · cases h
    cases content with
    | none => simp [weaknesses]
    | some source => exact Weakness.graded_of_mem_findings
  · split at h
    · cases hcheck : (Manifest.check content kind scheme nesting).1 with
      | error fault =>
        simp only [hcheck] at h
        cases h
      | ok outcome =>
        simp only [hcheck] at h
        cases h
        exact Manifest.graded_of_mem_findings hcheck
    · cases h
      simp

/-- **Whatever a text holds, its findings have one of the four severities.** -/
theorem graded_of_scanText {s : TextSettings} {content : Option String} {kind path : String}
    {x : FileReport} (h : (scanText s content kind path).1 = .ok x) :
    ∀ f ∈ x.findings, f.Graded := by
  simp only [scanText] at h
  split at h
  · cases h
  · rename_i a ha
    split at h
    · cases h
    · cases h
      intro f hf
      exact Analysis.graded_of_run ha f (List.mem_filter.mp hf).1

/-- **A result that a scan has produced**: a scan of files, or the scan of one text. -/
inductive Produced : ScanResult → Prop
  | files {w : World} {s : ScanSettings} {root : PathName} {r : ScanResult} :
      (Scan.files w s root).1 = .ok r → Produced r
  | text {s : TextSettings} {content : Option String} {kind path : String} {x : FileReport} :
      (scanText s content kind path).1 = .ok x → Produced ⟨[x], 1⟩

theorem Scan.graded_of_selected {w : World} {s : ScanSettings} {place base : List String}
    {c : List String × String} (hc : target? w s place = some c) {x : FileReport}
    (h : (selected w s base c.1 c.2).1 = .ok x) : ∀ f ∈ x.findings, f.Graded := by
  rcases selected_cases hc base with ⟨_, _, reason, -, hsel⟩ | ⟨_, bytes, -, hsel⟩
  · rw [hsel] at h
    cases h
    have hmedium : Severity.IsName "Medium" := by decide
    simpa [unreadable, Finding.Graded] using hmedium
  · rw [hsel] at h
    exact graded_of_scanText h

theorem Produced.graded {r : ScanResult} (h : Produced r) :
    ∀ f ∈ r.findings.map (·.2), f.Graded := by
  have hfiles : ∀ x ∈ r.files, ∀ f ∈ x.findings, f.Graded := by
    cases h with
    | files h =>
      obtain ⟨place, -, hreports, -⟩ := Scan.files_eq_ok_iff.mp h
      intro x hx
      obtain ⟨c, hc, hsel⟩ := exists_mem_of_forall₂ (R := flip _) hreports.flip x hx
      obtain ⟨p, -, ht⟩ := Scan.exists_target?_of_mem_targets hc
      exact Scan.graded_of_selected ht hsel
    | text h => simpa using graded_of_scanText h
  intro f hf
  simp only [ScanResult.findings, List.mem_map, List.mem_flatMap] at hf
  obtain ⟨_, ⟨x, hx, f, hf, rfl⟩, rfl⟩ := hf
  exact hfiles x hx f hf

/-! ## Counting by severity -/

namespace Severity

theorem count_cons (s : Severity) (f : Finding) (rest : List Finding) :
    s.count (f :: rest) = s.count rest + if f.severity = s.name then 1 else 0 := by
  simp [count, List.countP_cons]

/-- The four numbers together count the findings that have one of the four severities. -/
theorem sum_count (findings : List Finding) :
    low.count findings + medium.count findings + high.count findings + critical.count findings =
      findings.countP (fun f => decide (IsName f.severity)) := by
  induction findings with
  | nil => rfl
  | cons f rest ih =>
    rw [count_cons, count_cons, count_cons, count_cons, List.countP_cons, ← ih]
    by_cases h : IsName f.severity
    · obtain ⟨s, hs⟩ := isName_iff.mp h
      rw [decide_eq_true h, ← hs]
      cases s <;> simp [name] <;> omega
    · have hno : ∀ s : Severity, f.severity ≠ s.name := fun s hs => h (isName_iff.mpr ⟨s, hs.symm⟩)
      simp only [hno, h, decide_false, if_false, Nat.add_zero]
      rfl

/-- **The four numbers add up to the number of findings** exactly if every finding has one of the
four severities. -/
theorem sum_count_eq_length_iff {findings : List Finding} :
    low.count findings + medium.count findings + high.count findings + critical.count findings =
      findings.length ↔ ∀ f ∈ findings, f.Graded := by
  rw [sum_count, List.countP_eq_length]
  simp only [decide_eq_true_iff, Finding.Graded]

end Severity

theorem ScanResult.count_findings (r : ScanResult) (s : Severity) :
    s.count (r.findings.map (·.2)) =
      (r.findings.filter fun x => x.2.severity = s.name).length := by
  rw [Severity.count, List.countP_map, List.countP_eq_length_filter]
  rfl

namespace Report

/-- One more occurrence of a word makes one more in all. -/
theorem total_countOneMore (word : String) (counts : List (String × Nat)) :
    total (countOneMore word counts) = total counts + 1 := by
  induction counts with
  | nil => rfl
  | cons entry rest ih =>
    rw [countOneMore]
    split
    · simp only [total]
      omega
    · simp only [total, ih]
      omega

/-- And one more of that word. -/
theorem lookup_countOneMore (word other : String) (counts : List (String × Nat)) :
    ((countOneMore word counts).lookup other).getD 0 =
      (counts.lookup other).getD 0 + if word = other then 1 else 0 := by
  induction counts with
  | nil =>
    rw [countOneMore, List.lookup_cons]
    by_cases h : other = word
    · simp [h]
    · rw [beq_eq_false_iff_ne.mpr h, if_neg (Ne.symm h)]
      rfl
  | cons entry rest ih =>
    obtain ⟨w, n⟩ := entry
    rw [countOneMore, List.lookup_cons]
    by_cases hw : w = word <;> by_cases h : other = w
    · simp [hw, h]
    · rw [if_pos hw, List.lookup_cons, beq_eq_false_iff_ne.mpr h, if_neg (hw ▸ Ne.symm h)]
      rfl
    · simp [hw, h, Ne.symm hw]
    · rw [if_neg hw, List.lookup_cons, beq_eq_false_iff_ne.mpr h]
      exact ih

/-- **The counts of all severities add up to the number of findings**, whatever the severities are
called. By induction on the findings, whatever has been counted before them. -/
theorem total_severityCounts (findings : List Finding) :
    total (severityCounts findings) = findings.length := by
  have hfrom : ∀ counts : List (String × Nat),
      total (findings.foldl (fun counts f => countOneMore f.severity counts) counts) =
        total counts + findings.length := by
    induction findings with
    | nil => exact fun counts => rfl
    | cons f rest ih =>
      intro counts
      rw [List.foldl_cons, ih, total_countOneMore, List.length_cons]
      omega
  rw [severityCounts, hfrom]
  exact Nat.zero_add _

/-- **A severity is counted as often as it occurs.** -/
theorem lookup_severityCounts (findings : List Finding) (s : Severity) :
    ((severityCounts findings).lookup s.name).getD 0 = s.count findings := by
  have hfrom : ∀ counts : List (String × Nat),
      ((findings.foldl (fun counts f => countOneMore f.severity counts) counts).lookup s.name).getD
          0 = (counts.lookup s.name).getD 0 + s.count findings := by
    induction findings with
    | nil => exact fun counts => rfl
    | cons f rest ih =>
      intro counts
      rw [List.foldl_cons, ih, lookup_countOneMore, Severity.count_cons]
      omega
  rw [severityCounts, hfrom]
  exact Nat.zero_add _

end Report

theorem Report.summary_eq (r : ScanResult) :
    summary r =
      "[summary] files=" ++ r.filesScanned.repr ++ " findings=" ++ r.findings.length.repr ++
        " low=" ++ (Severity.low.count (r.findings.map (·.2))).repr ++
        " medium=" ++ (Severity.medium.count (r.findings.map (·.2))).repr ++
        " high=" ++ (Severity.high.count (r.findings.map (·.2))).repr ++
        " critical=" ++ (Severity.critical.count (r.findings.map (·.2))).repr ++
        " syntax_errors=" ++ r.syntaxErrors.length.repr := by
  unfold summary
  dsimp only
  rw [total_severityCounts, lookup_severityCounts, lookup_severityCounts, lookup_severityCounts,
    lookup_severityCounts, List.length_map]

/-! ## The gate -/

section Steps

variable {α β ε : Type} {x : Except ε α} {f : α → Except ε β}

/-- A step comes to an answer. -/
def Succeeds (x : Except ε α) : Prop := ∃ a, x = .ok a

theorem succeeds_ok (a : α) : Succeeds (.ok a : Except ε α) := ⟨a, rfl⟩

theorem Succeeds.bind (hx : Succeeds x) (hf : ∀ a, Succeeds (f a)) : Succeeds (x >>= f) := by
  obtain ⟨a, rfl⟩ := hx
  exact hf a

theorem succeeds_ite {p : Prop} [Decidable p] {y : Except ε α} (hx : Succeeds x)
    (hy : Succeeds y) : Succeeds (if p then x else y) := by
  split
  · exact hx
  · exact hy

end Steps

namespace Gate

variable {g : Gate} {findings : List Finding}

theorem succeeds_rankOf {name : String} (h : Severity.IsName name) : Succeeds (rankOf name) := by
  obtain ⟨s, rfl⟩ := Severity.isName_iff.mp h
  rw [rankOf, Severity.ofName?_name]
  exact succeeds_ok s.rank

/-- No severity is met that has no rank. -/
theorem succeeds_reaches (rank : Nat) (h : ∀ f ∈ findings, f.Graded) :
    Succeeds (reaches rank findings) := by
  induction findings with
  | nil => exact succeeds_ok false
  | cons f rest ih =>
    obtain ⟨hf, hrest⟩ := List.forall_mem_cons.mp h
    rw [reaches]
    exact (succeeds_rankOf hf).bind fun own => succeeds_ite (succeeds_ok true) (ih hrest)

theorem succeeds_severityReason (hfail : ∀ name, g.failOn = some name → Severity.IsName name)
    (h : ∀ f ∈ findings, f.Graded) : Succeeds (g.severityReason findings) := by
  rw [severityReason]
  split
  · exact succeeds_ok []
  · rename_i name hname
    exact (succeeds_rankOf (hfail name hname)).bind fun rank =>
      (succeeds_reaches rank h).bind fun _ => succeeds_ite (succeeds_ok _) (succeeds_ok _)

/-- A limit that can be compared with zero can be compared with every count. -/
theorem succeeds_of_exceeds {limit : Setting} (h : limit.isNegative = .ok false) (count : Nat)
    (reason : List String) :
    Succeeds (do if ← exceeds count limit then return reason else return []) := by
  obtain ⟨below, hbelow⟩ := Setting.exists_isBelow h count
  rw [exceeds, hbelow]
  exact succeeds_ite (succeeds_ok reason) (succeeds_ok [])

theorem succeeds_countReason
    (hissues : ∀ limit, g.maxIssues = some limit → limit.isNegative = .ok false) :
    Succeeds (g.countReason findings) := by
  rw [countReason]
  split
  · exact succeeds_ok []
  · rename_i limit hlimit
    exact succeeds_of_exceeds (hissues limit hlimit) _ _

theorem succeeds_limitReason {s : Severity}
    (hlimits : ∀ limit, g.limit s = some limit → limit.isNegative = .ok false) :
    Succeeds (g.limitReason findings s) := by
  rw [limitReason]
  split
  · exact succeeds_ok []
  · rename_i limit hlimit
    exact succeeds_of_exceeds (hlimits limit hlimit) _ _

/-- **The gate of a checked configuration decides** on every result whose findings have one of the
four severities. -/
theorem succeeds_reasons {c : Config} (hc : c.Checked) {r : ScanResult}
    (hr : ∀ f ∈ r.findings.map (·.2), f.Graded) : Succeeds (c.gate.reasons r) :=
  (succeeds_severityReason hc.failOn hr).bind fun _ =>
    (succeeds_countReason hc.maxIssues).bind fun _ =>
    (succeeds_limitReason (hc.limits .low)).bind fun _ =>
    (succeeds_limitReason (hc.limits .medium)).bind fun _ =>
    (succeeds_limitReason (hc.limits .high)).bind fun _ =>
    (succeeds_limitReason (hc.limits .critical)).bind fun _ => succeeds_ok _

end Gate

/-! ## The run -/

namespace Run

variable {w : World} {input : ByteArray} {c : Config} {a : ScanArguments}

theorem succeeds_formatOf (hc : c.Checked) : Succeeds (formatOf c.format) := by
  obtain ⟨word, hword, hformat⟩ := hc.format
  rw [hformat]
  rcases List.mem_pair.mp hword with rfl | rfl
  · exact succeeds_ok Report.Format.plain
  · exact succeeds_ok Report.Format.sarif

/-- The scan of a run. -/
def scanOf (w : World) (input : ByteArray) (c : Config) (a : ScanArguments) :
    Except RunFault (ScanResult × List ScanEvent) :=
  if a.path == inputPath then scanInput w.machine input c a.markup
  else scanFiles w c a.path a.markup

theorem produced_of_scanInput {m : Machine} {markup : Bool} {x : ScanResult × List ScanEvent}
    (h : scanInput m input c markup = .ok x) : Produced x.1 := by
  simp only [scanInput] at h
  split at h
  · cases h
  · split at h
    · cases h
    · rename_i report notes hscan
      cases h
      exact .text (congrArg Prod.fst hscan)

theorem produced_of_scanFiles {path : String} {markup : Bool} {x : ScanResult × List ScanEvent}
    (h : scanFiles w c path markup = .ok x) : Produced x.1 := by
  rw [scanFiles] at h
  split at h
  · cases h
  · obtain ⟨extensions, -, h⟩ := bind_eq_ok_iff.mp h
    dsimp only at h
    split at h
    · cases h
    · rename_i r events hscan
      cases h
      exact .files (congrArg Prod.fst hscan)

theorem produced_of_scanOf {x : ScanResult × List ScanEvent} (h : scanOf w input c a = .ok x) :
    Produced x.1 := by
  rw [scanOf] at h
  split at h
  · exact produced_of_scanInput h
  · exact produced_of_scanFiles h

/-- **A run after its scan**: the format, the delivery of the report and the gate. -/
theorem scanWith_of_scanOf {r : ScanResult} {events : List ScanEvent}
    (h : scanOf w input c a = .ok (r, events)) :
    scanWith w input c a = (do
      let format ← formatOf c.format
      let (stdout, world) ← deliver w (Report.text format r) c.out
      let reasons ← (c.gate.reasons r).mapError .gate
      return {
        exitCode := if reasons.isEmpty then 0 else 2
        stdout
        stderr := printed (logLines a.verbose events ++ [Report.summary r] ++ gateLines reasons)
        world }) := by
  rw [scanOf] at h
  rw [scanWith]
  split at h
  · rename_i hpath
    rw [if_pos hpath, h]
    rfl
  · rename_i hpath
    rw [if_neg hpath, h]
    rfl

end Run

open Run

/-- **After the scan of a checked configuration.** Whatever the scan has produced, there is a
format for the report, the gate decides, and the numbers of the four severities in the summary add
up to the number of findings. So the delivery of the report is all that can still fail in a run. -/
theorem report_of_checked {c : Config} (hcheck : c.check = .ok []) :
    (∀ r, Produced r →
      (∃ format, formatOf c.format = .ok format) ∧ (∃ reasons, c.gate.reasons r = .ok reasons) ∧
      ∃ n : Severity → Nat,
        (∀ s, n s = (r.findings.filter fun x => x.2.severity = s.name).length) ∧
        n .low + n .medium + n .high + n .critical = r.findings.length ∧
        Report.summary r =
          "[summary] files=" ++ r.filesScanned.repr ++ " findings=" ++ r.findings.length.repr ++
            " low=" ++ (n .low).repr ++ " medium=" ++ (n .medium).repr ++
            " high=" ++ (n .high).repr ++ " critical=" ++ (n .critical).repr ++
            " syntax_errors=" ++ r.syntaxErrors.length.repr) ∧
    ∀ w input a r events, scanOf w input c a = .ok (r, events) →
      ∃ format reasons, formatOf c.format = .ok format ∧ c.gate.reasons r = .ok reasons ∧
        scanWith w input c a = (deliver w (Report.text format r) c.out).map fun delivered =>
          { exitCode := if reasons.isEmpty then 0 else 2
            stdout := delivered.1
            stderr := printed (logLines a.verbose events ++ [Report.summary r] ++ gateLines reasons)
            world := delivered.2 } := by
  have hc := Config.check_eq_ok_nil_iff.mp hcheck
  refine ⟨fun r hr => ⟨succeeds_formatOf hc, Gate.succeeds_reasons hc hr.graded, ?_⟩, ?_⟩
  · -- the numbers get names, so that the line can be compared without a look at them
    obtain ⟨n, hn⟩ : ∃ n : Severity → Nat, ∀ s, n s = s.count (r.findings.map (·.2)) :=
      ⟨_, fun _ => rfl⟩
    refine ⟨n, fun s => (hn s).trans (r.count_findings s), ?_, ?_⟩
    · rw [hn, hn, hn, hn, Severity.sum_count_eq_length_iff.mpr hr.graded, List.length_map]
    · rw [hn, hn, hn, hn, Report.summary_eq]
  · intro w input a r events hscan
    obtain ⟨format, hformat⟩ := succeeds_formatOf hc
    obtain ⟨reasons, hreasons⟩ := Gate.succeeds_reasons hc (produced_of_scanOf hscan).graded
    refine ⟨format, reasons, hformat, hreasons, ?_⟩
    rw [scanWith_of_scanOf hscan, hformat, hreasons]
    cases h : deliver w (Report.text format r) c.out with
    | error fault => simp [bind, Except.bind, h, Except.map]
    | ok delivered => simp [bind, Except.bind, h, Except.map, Except.mapError, pure, Except.pure]

/-- A configuration with a gate whose limits are a flag and a number, in the exchange format. -/
def gated : Config :=
  { Config.default with
    gate := { Gate.none with failOn := some "High", maxIssues := some (.flag true),
                             maxMedium := some (.int 0) }
    format := .text "sarif" }

/-- The gate decides on a file that cannot be read, with limits of both kinds. -/
theorem report_of_gated :
    gated.check = .ok [] ∧
      Produced { files := [Scan.unreadable "a.js" "code" "denied"], filesScanned := 1 } ∧
      (∃ format, formatOf gated.format = .ok format) ∧
      ∃ reasons, gated.gate.reasons
        { files := [Scan.unreadable "a.js" "code" "denied"], filesScanned := 1 } = .ok reasons := by
  have hcheck : gated.check = .ok [] := by cbv
  have hproduced := Produced.files (Scan.files_locked .everything)
  obtain ⟨hformat, hreasons, -⟩ := (report_of_checked hcheck).1 _ hproduced
  exact ⟨hcheck, hproduced, hformat, hreasons⟩

end Advisor
