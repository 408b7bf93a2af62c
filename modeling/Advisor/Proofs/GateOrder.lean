import Advisor.Proofs.ConfigCheck

/-!
# Stricter gates and smaller results

A gate passes a result if each of its conditions holds (`reasons_eq_ok_nil_iff`, with the conditions
spelled out in `Gate.Satisfied`). Every one of them asks for few findings or few errors, so it keeps
holding when there are fewer of them and when the gate asks for less: `passes_of_stricter`.
-/

namespace Advisor

/-! ## Limits and severities in order -/

namespace Setting

/-- The whole number that a setting stands for. Flags are numbers, too. -/
def integer? : Setting → Option Int
  | flag b => some b.toNat
  | int i => some i
  | _ => none

theorem isBelow_of_integer? {s : Setting} {i : Int} (h : s.integer? = some i) (count : Nat) :
    s.isBelow count = .ok (decide (i < count)) := by
  cases s with
  | flag b =>
    obtain rfl := Option.some.inj h
    simp only [isBelow, Nat.cast_lt]
  | int j =>
    obtain rfl := Option.some.inj h
    rfl
  | real | text | moment | list | table => cases h

end Setting

namespace Severity

/-- A name stands for one severity at most. -/
theorem ofName?_eq_some_iff {name : String} {s : Severity} : ofName? name = some s ↔ s.name = name := by
  constructor
  · intro h
    rw [ofName?] at h
    simpa using List.find?_some h
  · rintro rfl
    exact ofName?_name s

theorem name_injective : Function.Injective name := by
  intro s s' h
  have hs := ofName?_eq_some_iff.mpr h
  rw [ofName?_name] at hs
  exact (Option.some.inj hs).symm

end Severity

namespace Gate

/-- `LimitLe limit' limit`: the first limit lets through no more than the second. Whole numbers go
by their size, and without a limit everything is let through. -/
inductive LimitLe : Option Setting → Option Setting → Prop
  | absent (limit' : Option Setting) : LimitLe limit' .none
  | whole {limit' limit : Setting} {m n : Int} : limit'.integer? = some m →
      limit.integer? = some n → m ≤ n → LimitLe (some limit') (some limit)

/-- `ThresholdLe name' name`: whatever fails at the second severity fails at the first. -/
inductive ThresholdLe : Option String → Option String → Prop
  | absent (name' : Option String) : ThresholdLe name' .none
  | named {s' s : Severity} : s'.rank ≤ s.rank → ThresholdLe (some s'.name) (some s.name)

/-- **A gate is at least as strict as another**, in each of its conditions. -/
structure Stricter (g' g : Gate) : Prop where
  failOn : ThresholdLe g'.failOn g.failOn
  maxIssues : LimitLe g'.maxIssues g.maxIssues
  limits : ∀ s, LimitLe (g'.limit s) (g.limit s)
  failOnBrokenSyntax : g.failOnBrokenSyntax = true → g'.failOnBrokenSyntax = true

end Gate

/-- **A result in which no more was found than in another**: each of its findings is matched by one
of the other's, and its syntax errors are among the other's. -/
structure ScanResult.Within (r r' : ScanResult) : Prop where
  findings : (r.findings.map (·.2)).Subperm (r'.findings.map (·.2))
  syntaxErrors : r.syntaxErrors ⊆ r'.syntaxErrors

/-! ## The conditions of a gate -/

namespace Gate

variable {g g' : Gate} {r r' : ScanResult} {findings : List Finding}

/-- **What a gate asks of a result.** A condition that cannot be decided does not hold: this is so
for severities without a rank and for limits that no number can be compared with. -/
structure Satisfied (g : Gate) (r : ScanResult) : Prop where
  severities : ∀ name, g.failOn = some name → ∃ threshold : Severity, threshold.name = name ∧
    ∀ f ∈ r.findings.map (·.2), ∃ s : Severity, s.name = f.severity ∧ s.rank < threshold.rank
  issues : ∀ limit, g.maxIssues = some limit →
    limit.isBelow (r.findings.map (·.2)).length = .ok false
  counts : ∀ s limit, g.limit s = some limit →
    limit.isBelow (s.count (r.findings.map (·.2))) = .ok false
  wellFormed : g.failOnBrokenSyntax = true → r.syntaxErrors = []

theorem rankOf_eq_ok_iff {name : String} {rank : Nat} :
    rankOf name = .ok rank ↔ ∃ s : Severity, s.name = name ∧ s.rank = rank := by
  rw [rankOf]
  constructor
  · intro h
    cases hs : Severity.ofName? name with
    | none =>
      rw [hs] at h
      cases h
    | some s =>
      rw [hs] at h
      exact ⟨s, Severity.ofName?_eq_some_iff.mp hs, Except.ok.inj h⟩
  · rintro ⟨s, rfl, rfl⟩
    rw [Severity.ofName?_name]

/-- No finding is as bad as a rank exactly if each has a lower one. -/
theorem reaches_eq_ok_false_iff {rank : Nat} :
    reaches rank findings = .ok false ↔
      ∀ f ∈ findings, ∃ s : Severity, s.name = f.severity ∧ s.rank < rank := by
  induction findings with
  | nil => simp [reaches]
  | cons f rest ih =>
    rw [reaches, bind_eq_ok_iff, List.forall_mem_cons, ← ih]
    constructor
    · rintro ⟨own, hown, h⟩
      split at h
      · cases h
      · rename_i hlow
        obtain ⟨s, hs, rfl⟩ := rankOf_eq_ok_iff.mp hown
        exact ⟨⟨s, hs, by omega⟩, h⟩
    · rintro ⟨⟨s, hs, hlow⟩, h⟩
      refine ⟨s.rank, rankOf_eq_ok_iff.mpr ⟨s, hs, rfl⟩, ?_⟩
      rw [if_neg (by omega)]
      exact h

theorem severityReason_eq_ok_nil_iff :
    g.severityReason findings = .ok [] ↔
      ∀ name, g.failOn = some name → ∃ threshold : Severity, threshold.name = name ∧
        ∀ f ∈ findings, ∃ s : Severity, s.name = f.severity ∧ s.rank < threshold.rank := by
  rw [severityReason]
  cases g.failOn with
  | none => simp
  | some name =>
    simp only [Option.some.injEq, forall_eq']
    constructor
    · intro h
      obtain ⟨rank, hrank, h⟩ := bind_eq_ok_iff.mp h
      obtain ⟨reached, hreached, h⟩ := bind_eq_ok_iff.mp h
      cases reached with
      | true => cases h
      | false =>
        obtain ⟨threshold, hname, rfl⟩ := rankOf_eq_ok_iff.mp hrank
        exact ⟨threshold, hname, reaches_eq_ok_false_iff.mp hreached⟩
    · rintro ⟨threshold, hname, hlow⟩
      refine bind_eq_ok_iff.mpr ⟨threshold.rank, rankOf_eq_ok_iff.mpr ⟨threshold, hname, rfl⟩, ?_⟩
      exact bind_eq_ok_iff.mpr ⟨false, reaches_eq_ok_false_iff.mpr hlow, rfl⟩

/-- A limit gives no reason exactly if it can be compared with the count and is not below it. -/
theorem exceeds_eq_ok_nil_iff {count : Nat} {limit : Setting} {reason : String} :
    (do if ← exceeds count limit then return [reason] else return []) = Except.ok [] ↔
      limit.isBelow count = .ok false := by
  rw [exceeds]
  cases limit.isBelow count with
  | error misfit => simp [bind, Except.bind]
  | ok below => cases below <;> simp [bind, Except.bind, pure, Except.pure]

theorem countReason_eq_ok_nil_iff :
    g.countReason findings = .ok [] ↔
      ∀ limit, g.maxIssues = some limit → limit.isBelow findings.length = .ok false := by
  rw [countReason]
  cases g.maxIssues with
  | none => simp
  | some limit =>
    simp only [Option.some.injEq, forall_eq']
    exact exceeds_eq_ok_nil_iff

theorem limitReason_eq_ok_nil_iff {s : Severity} :
    g.limitReason findings s = .ok [] ↔
      ∀ limit, g.limit s = some limit → limit.isBelow (s.count findings) = .ok false := by
  rw [limitReason]
  cases g.limit s with
  | none => simp
  | some limit =>
    simp only [Option.some.injEq, forall_eq']
    exact exceeds_eq_ok_nil_iff

theorem brokenReason_eq_nil_iff :
    g.brokenReason r = [] ↔ (g.failOnBrokenSyntax = true → r.syntaxErrors = []) := by
  have hnames : Text.distinct (r.syntaxErrors.map (·.1)) = [] ↔ r.syntaxErrors = [] := by
    simp only [List.eq_nil_iff_forall_not_mem, Text.mem_distinct_iff]
    rw [← List.eq_nil_iff_forall_not_mem, List.map_eq_nil_iff, List.eq_nil_iff_forall_not_mem]
  rw [brokenReason, ← hnames]
  cases g.failOnBrokenSyntax with
  | false => simp
  | true =>
    cases Text.distinct (r.syntaxErrors.map (·.1)) with
    | nil => simp
    | cons name rest => simp

/-- **A gate passes a result exactly if all its conditions hold.** -/
theorem reasons_eq_ok_nil_iff : g.reasons r = .ok [] ↔ g.Satisfied r := by
  constructor
  · intro h
    obtain ⟨worst, hworst, h⟩ := bind_eq_ok_iff.mp h
    obtain ⟨total, htotal, h⟩ := bind_eq_ok_iff.mp h
    obtain ⟨low, hlow, h⟩ := bind_eq_ok_iff.mp h
    obtain ⟨medium, hmedium, h⟩ := bind_eq_ok_iff.mp h
    obtain ⟨high, hhigh, h⟩ := bind_eq_ok_iff.mp h
    obtain ⟨critical, hcritical, h⟩ := bind_eq_ok_iff.mp h
    have hnil := Except.ok.inj h
    simp only [List.append_eq_nil_iff] at hnil
    obtain ⟨⟨⟨⟨⟨⟨rfl, rfl⟩, rfl⟩, rfl⟩, rfl⟩, rfl⟩, hbroken⟩ := hnil
    refine ⟨severityReason_eq_ok_nil_iff.mp hworst, countReason_eq_ok_nil_iff.mp htotal, ?_,
      brokenReason_eq_nil_iff.mp hbroken⟩
    intro s
    cases s with
    | low => exact limitReason_eq_ok_nil_iff.mp hlow
    | medium => exact limitReason_eq_ok_nil_iff.mp hmedium
    | high => exact limitReason_eq_ok_nil_iff.mp hhigh
    | critical => exact limitReason_eq_ok_nil_iff.mp hcritical
  · intro h
    have hlimit (s : Severity) := limitReason_eq_ok_nil_iff.mpr (h.counts s)
    rw [reasons, severityReason_eq_ok_nil_iff.mpr h.severities,
      countReason_eq_ok_nil_iff.mpr h.issues, hlimit, hlimit, hlimit, hlimit,
      brokenReason_eq_nil_iff.mpr h.wellFormed]
    rfl

/-! ## Each condition asks for little -/

/-- A limit that is kept is kept by fewer, also where it lets more through. -/
theorem isBelow_of_limitLe {limit : Setting} {o' : Option Setting} {count count' : Nat}
    (hle : LimitLe o' (some limit)) (hcount : count ≤ count')
    (h : ∀ limit', o' = some limit' → limit'.isBelow count' = .ok false) :
    limit.isBelow count = .ok false := by
  cases hle with
  | @whole limit' _ m n hm hn hmn =>
    have hkept := h limit' rfl
    rw [Setting.isBelow_of_integer? hm, Except.ok.injEq, decide_eq_false_iff_not] at hkept
    rw [Setting.isBelow_of_integer? hn, Except.ok.injEq, decide_eq_false_iff_not]
    omega

theorem Satisfied.of_stricter (hgate : g'.Stricter g) (hresult : r.Within r')
    (h : g'.Satisfied r') : g.Satisfied r where
  severities := by
    intro name hname
    have hle := hgate.failOn
    rw [hname] at hle
    generalize hname' : g'.failOn = o' at hle
    cases hle with
    | @named s' s hrank =>
      obtain ⟨threshold, hthreshold, hlow⟩ := h.severities s'.name hname'
      obtain rfl := Severity.name_injective hthreshold
      refine ⟨s, rfl, fun f hf => ?_⟩
      obtain ⟨own, hown, hlt⟩ := hlow f (hresult.findings.subset hf)
      exact ⟨own, hown, by omega⟩
  issues := by
    intro limit hlimit
    exact isBelow_of_limitLe (hlimit ▸ hgate.maxIssues) hresult.findings.length_le h.issues
  counts := by
    intro s limit hlimit
    have hcount : s.count (r.findings.map (·.2)) ≤ s.count (r'.findings.map (·.2)) :=
      hresult.findings.countP_le _
    exact isBelow_of_limitLe (hlimit ▸ hgate.limits s) hcount (h.counts s)
  wellFormed := by
    intro hon
    have hnone := h.wellFormed (hgate.failOnBrokenSyntax hon)
    exact List.subset_nil.mp (hnone ▸ hresult.syntaxErrors)

/-- **What passes a gate passes it with less**: a result in which no more was found passes every
gate that is no stricter. -/
theorem passes_of_stricter (hgate : g'.Stricter g) (hresult : r.Within r')
    (h : g'.reasons r' = .ok []) : g.reasons r = .ok [] :=
  reasons_eq_ok_nil_iff.mpr ((reasons_eq_ok_nil_iff.mp h).of_stricter hgate hresult)

/-- A file with findings of some severities, and with broken syntax or without. -/
def graded (path : String) (severities : List Severity) (broken : Bool) : FileReport :=
  { path, kind := "code"
    findings := severities.map fun s =>
      { title := "", severity := s.name, description := "", place := .unknown, rule := "" }
    validation := some ⟨!broken, if broken then [⟨.unknown, "", "", ""⟩] else []⟩ }

/-- Three findings in two files, and one of the files is broken. -/
def manyFound : ScanResult := ⟨[graded "a.js" [.medium] false, graded "b.js" [.low, .low] true], 2⟩

/-- Two of the three, both in the broken file and in another order. -/
def fewFound : ScanResult := ⟨[graded "b.js" [.low, .medium] true], 1⟩

/-- A gate that just passes the three findings. -/
def narrowGate : Gate :=
  { Gate.none with
    failOn := some "High", maxIssues := some (.int 3), maxMedium := some (.flag true)
    maxCritical := some (.int 0) }

/-- A wider gate: one limit is gone, and the others are higher or the same. -/
def wideGate : Gate :=
  { Gate.none with
    failOn := some "Critical", maxMedium := some (.int 2), maxCritical := some (.int 0) }

/-- The wider gate passes two of the three findings that the narrow gate passes. -/
theorem passes_fewFound :
    narrowGate.Stricter wideGate ∧ fewFound.Within manyFound ∧
      narrowGate.reasons manyFound = .ok [] ∧ wideGate.reasons fewFound = .ok [] := by
  have hgate : narrowGate.Stricter wideGate := by
    refine ⟨@ThresholdLe.named .high .critical (by decide), .absent _, ?_, id⟩
    intro s
    cases s with
    | low => exact .absent _
    | medium => exact .whole rfl rfl (by decide)
    | high => exact .absent _
    | critical => exact .whole rfl rfl le_rfl
  have hresult : fewFound.Within manyFound := ⟨by decide, by decide⟩
  have hpasses : narrowGate.reasons manyFound = .ok [] := by cbv
  exact ⟨hgate, hresult, hpasses, passes_of_stricter hgate hresult hpasses⟩

end Gate

end Advisor
