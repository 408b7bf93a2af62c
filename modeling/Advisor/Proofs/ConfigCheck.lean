import Advisor.Config.Basic
import Mathlib

/-!
# What the check of a configuration ensures

A configuration takes settings of any kind, and the check looks at some of them only.
`check_eq_ok_nil_iff` says what is known of a configuration without complaints, in terms of its
settings: `Config.Checked`.
-/

namespace Advisor

section Steps

variable {α β ε : Type} {x : Except ε α} {f : α → Except ε β}

/-- A sequence of two steps succeeds if both do. -/
theorem bind_eq_ok_iff {b : β} : x >>= f = .ok b ↔ ∃ a, x = .ok a ∧ f a = .ok b := by
  cases x with
  | error e => simp [bind, Except.bind]
  | ok a => simp [bind, Except.bind]

end Steps

/-! ## Names -/

namespace Text

theorem mem_eraseRepsBy_loop {x a : String} {names kept : List String} :
    x ∈ List.eraseRepsBy.loop (· == ·) a names kept ↔ x = a ∨ x ∈ names ∨ x ∈ kept := by
  induction names generalizing a kept with
  | nil => simp [List.eraseRepsBy.loop, or_comm]
  | cons b rest ih =>
    rw [List.eraseRepsBy.loop]
    split
    · rename_i hab
      rw [beq_iff_eq] at hab
      subst hab
      rw [ih, List.mem_cons]
      tauto
    · rw [ih, List.mem_cons, List.mem_cons]
      tauto

/-- Nothing is lost when names are sorted and repetitions dropped. -/
theorem mem_distinct_iff {x : String} {names : List String} : x ∈ distinct names ↔ x ∈ names := by
  have hsorted : x ∈ sorted names ↔ x ∈ names := List.mem_mergeSort
  rw [← hsorted, distinct, List.eraseReps]
  cases sorted names with
  | nil => rfl
  | cons a rest => simp [List.eraseRepsBy, mem_eraseRepsBy_loop]

theorem pairwise_eraseRepsBy_loop {a : String} {names kept : List String}
    (hsorted : (a :: names).Pairwise (· ≤ ·)) (hkept : (a :: kept).Pairwise (· > ·)) :
    (List.eraseRepsBy.loop (· == ·) a names kept).Pairwise (· < ·) := by
  induction names generalizing a kept with
  | nil =>
    rw [List.eraseRepsBy.loop]
    exact List.pairwise_reverse.mpr hkept
  | cons b rest ih =>
    obtain ⟨hle, hrest⟩ := List.pairwise_cons.mp hsorted
    rw [List.eraseRepsBy.loop]
    split
    · rename_i hab
      rw [← beq_iff_eq.mp hab] at hrest
      exact ih hrest hkept
    · rename_i hab
      have hlt : a < b := lt_of_le_of_ne (hle b List.mem_cons_self) (by simpa using hab)
      refine ih hrest (List.pairwise_cons.mpr ⟨?_, hkept⟩)
      refine List.forall_mem_cons.mpr ⟨hlt, fun x hx => ?_⟩
      exact lt_trans ((List.pairwise_cons.mp hkept).1 x hx) hlt

/-- **Names come out in strictly ascending order.** -/
theorem pairwise_distinct (names : List String) : (distinct names).Pairwise (· < ·) := by
  have hsorted : (sorted names).Pairwise (· ≤ ·) := List.pairwise_mergeSort' (· ≤ ·) names
  rw [distinct, List.eraseReps]
  cases h : sorted names with
  | nil => exact List.Pairwise.nil
  | cons a rest =>
    rw [h] at hsorted
    exact pairwise_eraseRepsBy_loop hsorted (List.pairwise_singleton _ a)

/-- Up to their order, they are the names without repetitions, in whatever list these stand. -/
theorem distinct_perm_dedup {names others : List String} (h : ∀ x, x ∈ names ↔ x ∈ others) :
    (distinct names).Perm others.dedup := by
  have hnodup := (pairwise_distinct names).nodup
  refine (List.perm_ext_iff_of_nodup hnodup others.nodup_dedup).mpr fun x => ?_
  rw [mem_distinct_iff, List.mem_dedup, h]

end Text

namespace Severity

/-- A word is the name of a severity. -/
def IsName (word : String) : Prop := word ∈ all.map name

instance (word : String) : Decidable (IsName word) := inferInstanceAs (Decidable (_ ∈ _))

theorem isName_iff {word : String} : IsName word ↔ ∃ s : Severity, s.name = word := by
  constructor
  · intro h
    obtain ⟨s, -, hs⟩ := List.mem_map.mp h
    exact ⟨s, hs⟩
  · rintro ⟨s, rfl⟩
    cases s <;> decide

end Severity

/-! ## The settings of a configuration without complaints -/

/-- **What can be compared with zero can be compared with any count.** -/
theorem Setting.exists_isBelow {s : Setting} {b : Bool} (h : s.isNegative = .ok b) (count : Nat) :
    ∃ below, s.isBelow count = .ok below := by
  cases s with
  | flag b => exact ⟨_, rfl⟩
  | int i => exact ⟨_, rfl⟩
  | real x => exact ⟨_, rfl⟩
  | text | moment | list | table => cases h

namespace Config

variable {c : Config}

/-- **A configuration that nothing is wrong with.** Limits are numbers that are not negative, where
flags count as numbers, and what is one of some words is a text. -/
structure Checked (c : Config) : Prop where
  failOn : ∀ name, c.gate.failOn = some name → Severity.IsName name
  maxIssues : ∀ limit, c.gate.maxIssues = some limit → limit.isNegative = .ok false
  limits : ∀ s limit, c.gate.limit s = some limit → limit.isNegative = .ok false
  someEnabled : c.enabledRules ≠ some []
  known : ∀ rule ∈ c.enabledRules.getD [] ++ c.disabledRules, rule ∈ knownRules
  kind : ∀ k, c.kind = some k → ∃ word ∈ kinds, k = .text word
  scheme : ∃ word ∈ schemes, c.scheme = .text word
  format : ∃ word ∈ formats, c.format = .text word

theorem isOneOf_iff {words : List String} {s : Setting} :
    isOneOf words s = true ↔ ∃ word ∈ words, s = .text word := by
  cases s <;> simp [isOneOf]

theorem limitErrors_eq_ok_nil_iff {name : String} {limit : Option Setting} :
    limitErrors name limit = .ok [] ↔ ∀ s, limit = some s → s.isNegative = .ok false := by
  cases limit with
  | none => simp [limitErrors]
  | some s =>
    simp only [limitErrors, bind_eq_ok_iff, Option.some.injEq, forall_eq']
    constructor
    · rintro ⟨b, hb, h⟩
      cases b with
      | false => exact hb
      | true => cases h
    · intro h
      exact ⟨false, h, rfl⟩

theorem unknownRules_eq_nil_iff :
    c.unknownRules = [] ↔
      ∀ rule ∈ c.enabledRules.getD [] ++ c.disabledRules, rule ∈ knownRules := by
  simp only [unknownRules, List.eq_nil_iff_forall_not_mem, Text.mem_distinct_iff, List.mem_filter,
    Bool.not_eq_true', not_and, Bool.not_eq_false, List.contains_iff_mem]

/-- A complaint is left out exactly if its condition holds. -/
theorem expect_eq_nil_iff {p : Prop} [Decidable p] {complaint : String} :
    (if p then [] else [complaint]) = [] ↔ p := by
  by_cases h : p <;> simp [h]

theorem getD_map_eq_true_iff {α : Type} {p : α → Bool} {o : Option α} :
    (o.map p).getD true = true ↔ ∀ a, o = some a → p a = true := by
  cases o <;> simp

/-- **A configuration has no complaints exactly if nothing is wrong with it.** -/
theorem check_eq_ok_nil_iff : c.check = .ok [] ↔ c.Checked := by
  simp only [check, bind_eq_ok_iff]
  constructor
  · rintro ⟨issues, hissues, low, hlow, medium, hmedium, high, hhigh, critical, hcritical, h⟩
    split at h
    · cases h
    · simp only [pure, Except.pure, Except.ok.injEq, List.append_eq_nil_iff, expect_eq_nil_iff,
        getD_map_eq_true_iff, List.contains_iff_mem, bne_iff_ne, List.isEmpty_iff,
        unknownRules_eq_nil_iff, isOneOf_iff] at h
      obtain ⟨⟨⟨⟨⟨⟨⟨⟨⟨⟨hseverity, rfl⟩, rfl⟩, rfl⟩, rfl⟩, rfl⟩, hsome⟩, hknown⟩, hkind⟩, hscheme⟩,
        hformat⟩ := h
      refine ⟨hseverity, limitErrors_eq_ok_nil_iff.mp hissues, fun s => ?_, hsome, hknown, hkind,
        hscheme, hformat⟩
      cases s with
      | low => exact limitErrors_eq_ok_nil_iff.mp hlow
      | medium => exact limitErrors_eq_ok_nil_iff.mp hmedium
      | high => exact limitErrors_eq_ok_nil_iff.mp hhigh
      | critical => exact limitErrors_eq_ok_nil_iff.mp hcritical
  · intro h
    have hscalar : c.format.isScalar = true := by
      obtain ⟨word, -, hword⟩ := h.format
      rw [hword]
      rfl
    refine ⟨[], limitErrors_eq_ok_nil_iff.mpr h.maxIssues,
      [], limitErrors_eq_ok_nil_iff.mpr (h.limits .low),
      [], limitErrors_eq_ok_nil_iff.mpr (h.limits .medium),
      [], limitErrors_eq_ok_nil_iff.mpr (h.limits .high),
      [], limitErrors_eq_ok_nil_iff.mpr (h.limits .critical), ?_⟩
    rw [hscalar, if_neg (by decide)]
    simp only [pure, Except.pure, Except.ok.injEq, List.append_eq_nil_iff, expect_eq_nil_iff,
      getD_map_eq_true_iff, List.contains_iff_mem, bne_iff_ne, List.isEmpty_iff,
      unknownRules_eq_nil_iff, isOneOf_iff, and_true]
    exact ⟨⟨⟨⟨⟨h.failOn, h.someEnabled⟩, h.known⟩, h.kind⟩, h.scheme⟩, h.format⟩

end Config

end Advisor
