import Advisor.Proofs.AfterScan
import Advisor.Proofs.WrittenReport

/-!
# One tally for all views

The report in either format, the summary and the gate count what was found, each in its own way.
`Tally.Shown t r` says that the numbers of `t` are those that all of them go by, and
`exists_tally_shown` that every result has such numbers.
-/

namespace Advisor

/-- The member of an object. -/
def Json.member? (name : String) (v : Json) : Option Json := v.members?.bind (List.lookup name)

/-! ## Titles -/

namespace Report

/-- Every title is counted once, as often as it occurs. -/
theorem sum_titleCounts (findings : List Finding) :
    ((titleCounts findings).map Prod.snd).sum = findings.length := by
  rw [titleCounts, List.map_map]
  calc ((Text.distinct (findings.map (·.title))).map fun t => (findings.map (·.title)).count t).sum
      = ((findings.map (·.title)).dedup.map fun t => (findings.map (·.title)).count t).sum :=
        ((Text.distinct_perm_dedup fun _ => Iff.rfl).map _).sum_eq
    _ = (findings.map (·.title)).length := List.sum_map_count_dedup_eq_length _
    _ = findings.length := List.length_map ..

theorem count_of_mem_titleCounts {r : ScanResult} {x : String × Nat}
    (h : x ∈ titleCounts (r.findings.map (·.2))) :
    x.2 = (r.findings.filter fun f => f.2.title = x.1).length := by
  obtain ⟨t, -, rfl⟩ := List.mem_map.mp h
  rw [List.map_map, List.count, List.countP_map, List.countP_eq_length_filter]
  rfl

theorem count_pos_of_mem_titleCounts {findings : List Finding} {x : String × Nat}
    (h : x ∈ titleCounts findings) : 0 < x.2 := by
  obtain ⟨t, ht, rfl⟩ := List.mem_map.mp h
  exact List.count_pos_iff.mpr (Text.mem_distinct_iff.mp ht)

theorem length_results (r : ScanResult) :
    (results r).length = r.findings.length + r.syntaxErrors.length := by
  rw [results, List.length_append, List.length_map, List.length_map]

end Report

namespace ScanResult

theorem length_findings (r : ScanResult) :
    r.findings.length = (r.files.map fun f => f.findings.length).sum := by
  simp only [findings, List.length_flatMap, List.length_map]

theorem length_syntaxErrors (r : ScanResult) :
    r.syntaxErrors.length =
      (r.files.map fun f => (f.validation.map (·.errors.length)).getD 0).sum := by
  rw [syntaxErrors, List.length_flatMap]
  congr 1
  refine List.map_congr_left fun f _ => ?_
  cases f.validation with
  | none => rfl
  | some v => exact List.length_map ..

theorem forall_findings_iff {P : Finding → Prop} (r : ScanResult) :
    (∀ f ∈ r.findings.map (·.2), P f) ↔ ∀ x ∈ r.files, ∀ f ∈ x.findings, P f := by
  simp only [findings, List.forall_mem_map, List.forall_mem_flatMap]

end ScanResult

/-! ## Reasons that name a number -/

namespace Gate

variable {g : Gate} {findings : List Finding} {l : List String} {x : String}

/-- The reason that names the number of findings. -/
def totalReason (n : Nat) (limit : Setting) : String :=
  "Finding count " ++ n.repr ++ " exceeds max_issues=" ++ limit.shown

/-- The reason that names the number of findings of one severity. -/
def numberReason (s : Severity) (n : Nat) (limit : Setting) : String :=
  s.name ++ " finding count " ++ n.repr ++ " exceeds " ++ s.limitName ++ "=" ++ limit.shown

theorem totalReason_inj {n m : Nat} {limit : Setting} :
    totalReason n limit = totalReason m limit ↔ n = m := by
  -- the equation of the definition would be checked by comparing texts byte by byte
  delta totalReason
  rw [String.append_left_inj, String.append_left_inj, String.append_right_inj, Nat.repr_inj]

theorem numberReason_inj {s : Severity} {n m : Nat} {limit : Setting} :
    numberReason s n limit = numberReason s m limit ↔ n = m := by
  simp only [numberReason, String.append_left_inj, String.append_right_inj, Nat.repr_inj]

theorem mem_of_exceeds {count : Nat} {limit : Setting} {reason : String}
    (h : (do if ← exceeds count limit then return [reason] else return []) = .ok l) :
    x ∈ l ↔ limit.isBelow count = .ok true ∧ x = reason := by
  obtain ⟨b, hb, hl⟩ := bind_eq_ok_iff.mp h
  have hbelow : limit.isBelow count = .ok b := by
    unfold exceeds at hb
    split at hb
    · rename_i b' hb'
      rw [hb', Except.ok.inj hb]
    · cases hb
  cases b with
  | true =>
    obtain rfl := Except.ok.inj hl
    simp [hbelow]
  | false =>
    obtain rfl := Except.ok.inj hl
    simp [hbelow]

theorem mem_countReason (h : g.countReason findings = .ok l) :
    x ∈ l ↔ ∃ limit, g.maxIssues = some limit ∧ limit.isBelow findings.length = .ok true ∧
      x = totalReason findings.length limit := by
  unfold countReason at h
  split at h
  · rename_i hnone
    obtain rfl := Except.ok.inj h
    simp [hnone]
  · rename_i limit hlimit
    rw [mem_of_exceeds h, hlimit]
    delta totalReason
    simp

theorem mem_limitReason {s : Severity} (h : g.limitReason findings s = .ok l) :
    x ∈ l ↔ ∃ limit, g.limit s = some limit ∧ limit.isBelow (s.count findings) = .ok true ∧
      x = numberReason s (s.count findings) limit := by
  unfold limitReason at h
  split at h
  · rename_i hnone
    obtain rfl := Except.ok.inj h
    simp [hnone]
  · rename_i limit hlimit
    rw [mem_of_exceeds h, hlimit]
    simp [numberReason]

/-! ### Reasons are told apart by how they begin -/

theorem head?_append {c : Char} {s t : String} (h : s.toList.head? = some c) :
    (s ++ t).toList.head? = some c := by
  rw [String.toList_append, List.head?_append, h]
  rfl

theorem head?_of_mem_severityReason (h : g.severityReason findings = .ok l) (hx : x ∈ l) :
    x.toList.head? = some 'D' := by
  unfold severityReason at h
  split at h
  · obtain rfl := Except.ok.inj h
    cases hx
  · obtain ⟨rank, -, h⟩ := bind_eq_ok_iff.mp h
    obtain ⟨b, -, h⟩ := bind_eq_ok_iff.mp h
    split at h
    · obtain rfl := Except.ok.inj h
      rw [List.mem_singleton.mp hx]
      exact head?_append (head?_append rfl)
    · obtain rfl := Except.ok.inj h
      cases hx

theorem head?_of_mem_brokenReason {r : ScanResult} (hx : x ∈ g.brokenReason r) :
    x.toList.head? = some 'S' := by
  unfold brokenReason at hx
  split at hx
  · split at hx
    · cases hx
    · rw [List.mem_singleton.mp hx]
      exact head?_append (head?_append (head?_append rfl))
  · cases hx

theorem head?_totalReason (n : Nat) (limit : Setting) :
    (totalReason n limit).toList.head? = some 'F' :=
  head?_append (head?_append (head?_append rfl))

theorem head?_numberReason (s : Severity) (n : Nat) (limit : Setting) :
    (numberReason s n limit).toList.head? = s.name.toList.head? := by
  have hname : ∃ c, s.name.toList.head? = some c := by cases s <;> exact ⟨_, rfl⟩
  obtain ⟨c, hc⟩ := hname
  rw [hc]
  exact head?_append (head?_append (head?_append (head?_append (head?_append (head?_append hc)))))

theorem eq_of_head?_name (s s' : Severity) :
    s.name.toList.head? = s'.name.toList.head? → s = s' := by
  cases s <;> cases s' <;> decide

/-- What a gate may complain of, group by group. -/
theorem mem_reasons {r : ScanResult} {reasons : List String} (h : g.reasons r = .ok reasons) :
    x ∈ reasons ↔
      (∃ worst, g.severityReason (r.findings.map (·.2)) = .ok worst ∧ x ∈ worst) ∨
      (∃ limit, g.maxIssues = some limit ∧ limit.isBelow r.findings.length = .ok true ∧
        x = totalReason r.findings.length limit) ∨
      (∃ s limit, g.limit s = some limit ∧
        limit.isBelow (s.count (r.findings.map (·.2))) = .ok true ∧
        x = numberReason s (s.count (r.findings.map (·.2))) limit) ∨
      x ∈ g.brokenReason r := by
  obtain ⟨worst, hworst, h⟩ := bind_eq_ok_iff.mp h
  obtain ⟨total, htotal, h⟩ := bind_eq_ok_iff.mp h
  obtain ⟨low, hlow, h⟩ := bind_eq_ok_iff.mp h
  obtain ⟨medium, hmedium, h⟩ := bind_eq_ok_iff.mp h
  obtain ⟨high, hhigh, h⟩ := bind_eq_ok_iff.mp h
  obtain ⟨critical, hcritical, h⟩ := bind_eq_ok_iff.mp h
  obtain rfl := Except.ok.inj h
  -- the four severities are asked one after the other
  have hseverity (P : Severity → Prop) :
      (∃ s, P s) ↔ P .low ∨ P .medium ∨ P .high ∨ P .critical := by
    constructor
    · rintro ⟨s, hs⟩
      cases s <;> simp [hs]
    · rintro (hs | hs | hs | hs) <;> exact ⟨_, hs⟩
  simp only [List.mem_append, mem_countReason htotal, mem_limitReason hlow, mem_limitReason hmedium,
    mem_limitReason hhigh, mem_limitReason hcritical, hworst, Except.ok.injEq, exists_eq_left',
    hseverity, List.length_map, or_assoc]

/-- The number of findings that a gate names is theirs, and it exceeds the limit. -/
theorem totalReason_mem_reasons_iff {r : ScanResult} {reasons : List String} {limit : Setting}
    (h : g.reasons r = .ok reasons) (hlimit : g.maxIssues = some limit) (n : Nat) :
    totalReason n limit ∈ reasons ↔ n = r.findings.length ∧ limit.isBelow n = .ok true := by
  have hhead := head?_totalReason n limit
  rw [mem_reasons h]
  constructor
  · rintro (⟨worst, hworst, hx⟩ | ⟨limit', hlimit', hbelow, hx⟩ | ⟨s, limit', -, -, hx⟩ | hx)
    · rw [head?_of_mem_severityReason hworst hx] at hhead
      cases hhead
    · rw [hlimit] at hlimit'
      obtain rfl := Option.some.inj hlimit'
      obtain rfl := totalReason_inj.mp hx
      exact ⟨rfl, hbelow⟩
    · rw [hx, head?_numberReason] at hhead
      cases s <;> cases hhead
    · rw [head?_of_mem_brokenReason hx] at hhead
      cases hhead
  · rintro ⟨rfl, hbelow⟩
    exact .inr (.inl ⟨limit, hlimit, hbelow, rfl⟩)

/-- The number of findings of a severity that a gate names is theirs, and it exceeds the limit. -/
theorem numberReason_mem_reasons_iff {r : ScanResult} {reasons : List String} {limit : Setting}
    {s : Severity} (h : g.reasons r = .ok reasons) (hlimit : g.limit s = some limit) (n : Nat) :
    numberReason s n limit ∈ reasons ↔
      n = s.count (r.findings.map (·.2)) ∧ limit.isBelow n = .ok true := by
  have hhead := head?_numberReason s n limit
  rw [mem_reasons h]
  constructor
  · rintro (⟨worst, hworst, hx⟩ | ⟨limit', -, -, hx⟩ | ⟨s', limit', hlimit', hbelow, hx⟩ | hx)
    · rw [head?_of_mem_severityReason hworst hx] at hhead
      cases s <;> cases hhead
    · rw [hx, head?_totalReason] at hhead
      cases s <;> cases hhead
    · rw [hx, head?_numberReason] at hhead
      obtain rfl := eq_of_head?_name s' s hhead
      rw [hlimit] at hlimit'
      obtain rfl := Option.some.inj hlimit'
      obtain rfl := numberReason_inj.mp hx
      exact ⟨rfl, hbelow⟩
    · rw [head?_of_mem_brokenReason hx] at hhead
      cases s <;> cases hhead
  · rintro ⟨rfl, hbelow⟩
    exact .inr (.inr (.inl ⟨s, limit, hlimit, hbelow, rfl⟩))

/-- With no severity to fail on and no limit below zero, a gate decides on any result. -/
theorem succeeds_of_limits (r : ScanResult) (hfail : g.failOn = .none)
    (hissues : ∀ limit, g.maxIssues = some limit → limit.isNegative = .ok false)
    (hlimits : ∀ s limit, g.limit s = some limit → limit.isNegative = .ok false) :
    Succeeds (g.reasons r) := by
  have hworst : Succeeds (g.severityReason (r.findings.map (·.2))) := by
    rw [severityReason, hfail]
    exact succeeds_ok []
  exact hworst.bind fun _ => (succeeds_countReason hissues).bind fun _ =>
    (succeeds_limitReason (hlimits .low)).bind fun _ =>
    (succeeds_limitReason (hlimits .medium)).bind fun _ =>
    (succeeds_limitReason (hlimits .high)).bind fun _ =>
    (succeeds_limitReason (hlimits .critical)).bind fun _ => succeeds_ok _

end Gate

/-! ## All views -/

/-- The numbers of a result. -/
structure Tally where
  findings : Nat
  errors : Nat
  bySeverity : Severity → Nat
  byTitle : List (String × Nat)

/-- **The numbers that all views of a result go by.** -/
structure Tally.Shown (t : Tally) (r : ScanResult) : Prop where
  -- the plain report
  findings_total : (Report.plain r).member? "findings_total" = some (.int t.findings)
  syntax_errors_total : (Report.plain r).member? "syntax_errors_total" = some (.int t.errors)
  severity_counts : (Report.plain r).member? "severity_counts" =
    some (.object (Severity.all.map fun s => (s.name, .int (t.bySeverity s))))
  type_counts : (Report.plain r).member? "type_counts" =
    some (.object (t.byTitle.map fun x => (x.1, .int x.2)))
  -- the files, and the titles
  sum_files : (r.files.map fun f => f.findings.length).sum = t.findings
  sum_errors : (r.files.map fun f => (f.validation.map (·.errors.length)).getD 0).sum = t.errors
  sum_titles : (t.byTitle.map Prod.snd).sum = t.findings
  titles_ascend : (t.byTitle.map Prod.fst).Pairwise (· < ·)
  titles_occur : ∀ x ∈ t.byTitle, 0 < x.2
  count_title : ∀ x ∈ t.byTitle, x.2 = (r.findings.filter fun f => f.2.title = x.1).length
  -- the report in the exchange format
  results : ∃ results, Report.sarif r = Report.envelope results ∧
    results.length = t.findings + t.errors
  -- the summary
  summary : Report.summary r =
    "[summary] files=" ++ r.filesScanned.repr ++ " findings=" ++ t.findings.repr ++
      " low=" ++ (t.bySeverity .low).repr ++ " medium=" ++ (t.bySeverity .medium).repr ++
      " high=" ++ (t.bySeverity .high).repr ++ " critical=" ++ (t.bySeverity .critical).repr ++
      " syntax_errors=" ++ t.errors.repr
  -- the gate: the one number that it can name is the one that it compares with the limit
  gate_findings : ∀ (g : Gate) (reasons : List String) (limit : Setting),
    g.reasons r = .ok reasons → g.maxIssues = some limit →
    ∀ n, Gate.totalReason n limit ∈ reasons ↔ n = t.findings ∧ limit.isBelow n = .ok true
  gate_severity : ∀ (g : Gate) (reasons : List String) (s : Severity) (limit : Setting),
    g.reasons r = .ok reasons → g.limit s = some limit →
    ∀ n, Gate.numberReason s n limit ∈ reasons ↔ n = t.bySeverity s ∧ limit.isBelow n = .ok true
  gate_decides : ∀ g : Gate, g.failOn = none →
    (∀ limit, g.maxIssues = some limit → limit.isNegative = .ok false) →
    (∀ s limit, g.limit s = some limit → limit.isNegative = .ok false) →
    ∃ reasons, g.reasons r = .ok reasons
  -- the severities
  count_severity : ∀ s,
    t.bySeverity s = (r.findings.filter fun f => f.2.severity = s.name).length
  sum_severities : t.bySeverity .low + t.bySeverity .medium + t.bySeverity .high +
      t.bySeverity .critical = t.findings ↔
    ∀ f ∈ r.files, ∀ x ∈ f.findings, ∃ s : Severity, x.severity = s.name

/-- **All views of a result agree.** -/
theorem exists_tally_shown (r : ScanResult) : ∃ t : Tally, t.Shown r := by
  have hlength : (r.findings.map (·.2)).length = r.findings.length := List.length_map ..
  refine ⟨⟨r.findings.length, r.syntaxErrors.length, fun s => s.count (r.findings.map (·.2)),
    Report.titleCounts (r.findings.map (·.2))⟩, ?_⟩
  exact {
    findings_total := congrArg (fun n : Nat => some (Json.int n)) hlength
    syntax_errors_total := rfl
    severity_counts := rfl
    type_counts := rfl
    sum_files := r.length_findings.symm
    sum_errors := r.length_syntaxErrors.symm
    sum_titles := (Report.sum_titleCounts _).trans hlength
    titles_ascend := Report.pairwise_titles _
    titles_occur := fun _ => Report.count_pos_of_mem_titleCounts
    count_title := fun _ => Report.count_of_mem_titleCounts
    results := ⟨Report.results r, Report.sarif_eq r, Report.length_results r⟩
    summary := Report.summary_eq r
    gate_findings := fun g reasons limit h hlimit => Gate.totalReason_mem_reasons_iff h hlimit
    gate_severity := fun g reasons s limit h hlimit => Gate.numberReason_mem_reasons_iff h hlimit
    gate_decides := fun g => Gate.succeeds_of_limits r
    count_severity := r.count_findings
    sum_severities := by
      rw [← hlength, Severity.sum_count_eq_length_iff, r.forall_findings_iff]
      simp only [Finding.Graded, Severity.isName_iff, eq_comm] }

end Advisor
