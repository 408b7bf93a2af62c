import Advisor.Manifest
import Advisor.Scan.Rule
import Mathlib.Tactic.Common

/-!
# What the check of a manifest finds, and when it breaks off

`checkDeclared_fst` says once what the pass over the declared packages returns: the findings of the
packages one by one, unless one of their versions breaks the pass off.
-/

namespace Advisor

namespace Manifest

variable {scheme : VersionScheme} {nesting : Nat}

/-! ## The pass over the declared packages -/

/-- What a declared package is reported for, if its version is vulnerable. -/
def finding? (scheme : VersionScheme) (d : String × String) : Option Finding :=
  (advisories.find? (·.package == d.1)).bind fun a =>
    if Version.compareTexts (bareVersion d.2) a.fixedIn scheme = .below then some (report a d.2)
    else none

/-- A declared package whose version breaks the pass off. -/
def BreaksPass (scheme : VersionScheme) (d : String × String) : Prop :=
  ∃ a, advisories.find? (·.package == d.1) = some a ∧
    Version.compareTexts (bareVersion d.2) a.fixedIn scheme = .numberTooLong

/-- **The pass, package by package.** It returns what the packages are reported for, in their
order, unless one of them breaks it off. -/
theorem checkDeclared_fst (scheme : VersionScheme) (ds : List (String × String)) :
    ((checkDeclared scheme ds).1 = .ok (ds.filterMap (finding? scheme)) ∧
        ∀ d ∈ ds, ¬ BreaksPass scheme d) ∨
      ((checkDeclared scheme ds).1 = .error .numberTooLong ∧ ∃ d ∈ ds, BreaksPass scheme d) := by
  induction ds with
  | nil => exact .inl ⟨rfl, by simp⟩
  | cons d rest ih =>
    obtain ⟨package, version⟩ := d
    cases ha : advisories.find? (·.package == package) with
    | none =>
      have hno : ¬ BreaksPass scheme (package, version) := by
        rintro ⟨a, ha', -⟩
        simp [ha] at ha'
      simpa [checkDeclared, ha, finding?, hno] using ih
    | some a =>
      have hbreaks : BreaksPass scheme (package, version) ↔
          Version.compareTexts (bareVersion version) a.fixedIn scheme = .numberTooLong := by
        simp [BreaksPass, ha]
      cases hc : Version.compareTexts (bareVersion version) a.fixedIn scheme with
      | below =>
        rcases ih with ⟨hok, hall⟩ | ⟨herr, d, hd, hbreak⟩
        · refine .inl ⟨?_, List.forall_mem_cons.mpr ⟨by simp [hbreaks, hc], hall⟩⟩
          simp [checkDeclared, ha, hc, hok, finding?, Except.map]
        · refine .inr ⟨?_, d, List.mem_cons_of_mem _ hd, hbreak⟩
          simp [checkDeclared, ha, hc, herr, Except.map]
      | notBelow => simpa [checkDeclared, ha, hc, finding?, hbreaks] using ih
      | incomparable => simpa [checkDeclared, ha, hc, finding?, hbreaks] using ih
      | numberTooLong =>
        exact .inr ⟨by simp [checkDeclared, ha, hc], _, List.mem_cons_self, hbreaks.mpr hc⟩

/-- A declared package is reported as a vulnerable dependency and at no place in particular. -/
theorem rule_and_place_of_finding? {d : String × String} {f : Finding}
    (h : finding? scheme d = some f) : f.rule = dependencyRule ∧ f.place = .unknown := by
  obtain ⟨a, -, hf⟩ := Option.bind_eq_some_iff.mp h
  split at hf
  · cases hf
    exact ⟨rfl, rfl⟩
  · cases hf

/-- What a check finds, it has found for some declared package. -/
theorem exists_finding?_of_mem_findings {content : Option String} {kind : String}
    {outcome : ManifestOutcome} (h : (check content kind scheme nesting).1 = .ok outcome) :
    ∀ f ∈ outcome.findings, ∃ d, finding? scheme d = some f := by
  simp only [check] at h
  split at h
  · split at h
    · rename_i members _
      rcases checkDeclared_fst scheme (declared members) with ⟨hok, -⟩ | ⟨herr, -⟩
      · simp only [hok, Except.map, Except.ok.injEq] at h
        subst h
        intro f hf
        obtain ⟨d, -, hd⟩ := List.mem_filterMap.mp hf
        exact ⟨d, hd⟩
      · simp [herr, Except.map] at h
    · cases h
    · cases h
      simp [ManifestOutcome.findings]
  · cases h
    simp [ManifestOutcome.findings]

/-- **A check reports nothing but dependencies.** -/
theorem rule_and_place_of_mem_findings {content : Option String} {kind : String}
    {outcome : ManifestOutcome} (h : (check content kind scheme nesting).1 = .ok outcome) :
    ∀ f ∈ outcome.findings, f.rule = dependencyRule ∧ f.place = .unknown := by
  intro f hf
  obtain ⟨d, hd⟩ := exists_finding?_of_mem_findings h f hf
  exact rule_and_place_of_finding? hd

end Manifest

end Advisor
