import Advisor.Proofs.ManifestCheck
import Advisor.Proofs.Pattern
import Advisor.Scan.Text
import Mathlib.Data.List.Basic

/-!
# What the scan of a text reports

A scan runs the checks that apply and then drops findings, by the filter of the rules and by the
directives of the lines. `scanText_eq` says what is left in one go, for every kind of text: in
code, line by line, the rules whose pattern is found in the line, that pass the filter and that the
line itself does not silence; in manifests the vulnerable dependencies or nothing, whatever
directives the text holds.
-/

namespace Advisor

open Advisor.Grammar

/-! ## Lines and their numbers -/

/-- Cutting a text at a separator is the cutting of lists. -/
theorem Text.splitOn_eq_list_splitOn (sep : Char) (cs : List Char) :
    Text.splitOn sep cs = cs.splitOn sep := by
  induction cs with
  | nil => rfl
  | cons c rest ih =>
    rw [Text.splitOn_cons, ih]
    simp [List.splitOn, List.splitOnP_cons_eq_if_modifyHead]

theorem Text.length_splitOn (sep : Char) (cs : List Char) :
    (Text.splitOn sep cs).length = cs.count sep + 1 := by
  induction cs with
  | nil => rfl
  | cons c rest ih =>
    rw [Text.splitOn_cons]
    by_cases hc : c = sep
    · rw [if_pos hc, List.length_cons, ih, hc, List.count_cons_self]
    · rw [if_neg hc, List.length_modifyHead, ih, List.count_cons_of_ne hc]

/-- The lines of a text with their numbers, from 1 on. -/
def numberedLines (source : String) : List (List Char × Nat) :=
  (source.toList.splitOn '\n').zipIdx 1

theorem zipIdx_splitOn_eq (source : String) :
    (Text.splitOn '\n' source.toList).zipIdx 1 = numberedLines source := by
  rw [Text.splitOn_eq_list_splitOn, numberedLines]

/-- A number belongs to one line only. -/
theorem line_eq_of_mem_numberedLines {source : String} {l l' : List Char} {n : Nat}
    (h : (l, n) ∈ numberedLines source) (h' : (l', n) ∈ numberedLines source) : l = l' := by
  have hl := (List.mk_mem_zipIdx_iff_le_and_getElem?_sub.mp h).2
  have hl' := (List.mk_mem_zipIdx_iff_le_and_getElem?_sub.mp h').2
  exact Option.some.inj (hl.symm.trans hl')

theorem pos_of_mem_numberedLines {source : String} {l : List Char} {n : Nat}
    (h : (l, n) ∈ numberedLines source) : 0 < n :=
  (List.mk_mem_zipIdx_iff_le_and_getElem?_sub.mp h).1

/-! ## The filter of the rules -/

namespace RuleFilter

/-- A rule passes a filter: it is not disabled, and if some are enabled by name, it is among
them. -/
def Passes (f : RuleFilter) (rule : String) : Prop :=
  rule ∉ f.disabled ∧ (f.enabled ≠ [] → rule ∈ f.enabled)

theorem allows_iff {f : RuleFilter} {rule : String} : f.allows rule = true ↔ f.Passes rule := by
  by_cases h : f.enabled = []
  · simp [allows, Passes, h]
  · simp [allows, Passes, h]

instance (f : RuleFilter) (rule : String) : Decidable (f.Passes rule) :=
  decidable_of_iff _ allows_iff

end RuleFilter

/-! ## Directives -/

namespace Suppression

/-- A line silences a rule: it holds a bare directive, or one that names the rule. -/
def Silences (line : List Char) (rule : String) : Prop :=
  directive? line = some .all ∨ ∃ rules, directive? line = some (.only rules) ∧ rule ∈ rules

theorem silences_iff {line : List Char} {rule : String} :
    Silences line rule ↔ ∃ d, directive? line = some d ∧ d.covers rule = true := by
  constructor
  · rintro (h | ⟨rules, h, hr⟩)
    · exact ⟨.all, h, rfl⟩
    · exact ⟨.only rules, h, List.contains_iff_mem.mpr hr⟩
  · rintro ⟨d, h, hc⟩
    cases d with
    | all => exact .inl h
    | only rules => exact .inr ⟨rules, h, List.contains_iff_mem.mp hc⟩

instance (line : List Char) (rule : String) : Decidable (Silences line rule) :=
  decidable_of_iff ((directive? line).any (·.covers rule) = true) <| by
    simp [silences_iff, Option.any_eq_true]

/-- The directives of a text are those of its lines. -/
theorem mem_ofSource_iff {source : String} {n : Nat} {d : Suppression} :
    (n, d) ∈ ofSource source ↔
      ∃ line, (line, n) ∈ numberedLines source ∧ directive? line = some d := by
  simp only [ofSource, zipIdx_splitOn_eq, List.mem_filterMap, Option.map_eq_some_iff,
    Prod.mk.injEq, Prod.exists]
  constructor
  · rintro ⟨line, m, hmem, d', hd, rfl, rfl⟩
    exact ⟨line, hmem, hd⟩
  · rintro ⟨line, hmem, hd⟩
    exact ⟨line, n, hmem, d, hd, rfl, rfl⟩

end Suppression

namespace TextSettings

variable {s : TextSettings} {source : String}

/-- The directives of a text that a scan heeds. -/
def heeded (s : TextSettings) (source : String) : List (Nat × Suppression) :=
  if s.directives then Suppression.ofSource source else []

theorem mem_heeded_iff {n : Nat} {d : Suppression} :
    (n, d) ∈ s.heeded source ↔ s.directives = true ∧
      ∃ line, (line, n) ∈ numberedLines source ∧ Suppression.directive? line = some d := by
  by_cases h : s.directives = true
  · simp [heeded, h, Suppression.mem_ofSource_iff]
  · simp [heeded, h]

/-- A finding is kept if its rule passes the filter and no heeded directive at its line covers
it. -/
theorem keeps_iff {ds : List (Nat × Suppression)} {f : Finding} :
    s.keeps ds f = true ↔ s.rules.Passes f.rule ∧
      ∀ n d, (n, d) ∈ ds → (n : Int) = f.place.line → d.covers f.rule = false := by
  simp [keeps, RuleFilter.allows_iff, Bool.and_eq_true]

/-- **In a line of the text**, a finding is kept if its rule passes the filter and the line, where
directives are heeded, does not silence it. -/
theorem keeps_in_line_iff {f : Finding} {line : List Char} {n : Nat}
    (hline : (line, n) ∈ numberedLines source) (hplace : f.place.line = n) :
    s.keeps (s.heeded source) f = true ↔ s.rules.Passes f.rule ∧
      ¬ (s.directives = true ∧ Suppression.Silences line f.rule) := by
  rw [keeps_iff, hplace, Suppression.silences_iff]
  refine and_congr_right fun _ => ?_
  constructor
  · rintro h ⟨hs, d, hd, hc⟩
    have := h n d (mem_heeded_iff.mpr ⟨hs, line, hline, hd⟩) rfl
    simp [hc] at this
  · intro h m d hmem hm
    obtain rfl : m = n := by omega
    obtain ⟨hs, line', hline', hd⟩ := mem_heeded_iff.mp hmem
    -- the directive stands in the same line, since both lines bear the number `m`
    rw [line_eq_of_mem_numberedLines hline' hline] at hd
    simpa using fun hc => h ⟨hs, d, hd, hc⟩

/-- **Outside all lines** directives do not count: the first line has the number 1. -/
theorem keeps_outside_iff {f : Finding} (hplace : f.place = .unknown) :
    s.keeps (s.heeded source) f = true ↔ s.rules.Passes f.rule := by
  rw [keeps_iff, hplace]
  refine and_iff_left ?_
  intro n d hmem hn
  obtain ⟨-, line, hline, -⟩ := mem_heeded_iff.mp hmem
  have hpos := pos_of_mem_numberedLines hline
  simp only [Place.unknown] at hn
  omega

end TextSettings

/-! ## The scan -/

namespace TextSettings

/-- A rule speaks up in a line: its pattern is found there, it passes the filter, and the line,
where directives are heeded, does not silence it. -/
def Reports (s : TextSettings) (line : List Char) (r : WeaknessRule) : Prop :=
  r.pattern.FoundIn line ∧ s.rules.Passes r.id ∧
    ¬ (s.directives = true ∧ Suppression.Silences line r.id)

instance (s : TextSettings) (line : List Char) (r : WeaknessRule) : Decidable (s.Reports line r) :=
  inferInstanceAs (Decidable (_ ∧ _ ∧ ¬ (_ ∧ _)))

/-- The findings in code: line by line, and within a line in the order of the rules. -/
def codeFindings (s : TextSettings) (source : String) : List Finding :=
  (numberedLines source).flatMap fun (line, number) =>
    (Weakness.rules.filter fun r => s.Reports line r).map fun r =>
      { title := r.title, severity := r.severity, description := r.description
        place := ⟨number, 0⟩, rule := r.id }

theorem filter_keeps_inLine {s : TextSettings} {source : String} {line : List Char} {n : Nat}
    (hline : (line, n) ∈ numberedLines source) :
    (Weakness.inLine (fun r line => r.pattern.occursIn line) Weakness.rules n line).filter
        (s.keeps (s.heeded source)) =
      (Weakness.rules.filter fun r => s.Reports line r).map (Weakness.report · n) := by
  rw [Weakness.inLine, List.filter_map, List.filter_filter]
  congr 1
  refine List.filter_congr fun r _ => ?_
  have hkeeps := keeps_in_line_iff (s := s) (f := Weakness.report r n) hline rfl
  rw [Bool.eq_iff_iff, Bool.and_eq_true, Function.comp_apply, hkeeps, Lexeme.occursIn_iff,
    decide_eq_true_iff]
  exact and_comm

theorem filter_keeps_weaknesses (s : TextSettings) (source : String) :
    (Weakness.findings Weakness.rules source).filter (s.keeps (s.heeded source)) =
      s.codeFindings source := by
  rw [Weakness.findings, Weakness.findingsBy, zipIdx_splitOn_eq, List.filter_flatMap, codeFindings]
  refine List.flatMap_congr fun x hx => ?_
  exact filter_keeps_inLine hx

/-- The findings of a manifest stand outside all lines and bear one rule: they stay or go
together. -/
theorem filter_keeps_dependencies {s : TextSettings} {source kind : String}
    {outcome : ManifestOutcome}
    (h : (Manifest.check (some source) kind s.scheme s.nesting).1 = .ok outcome) :
    outcome.findings.filter (s.keeps (s.heeded source)) =
      if s.rules.Passes dependencyRule then outcome.findings else [] := by
  have hall := Manifest.rule_and_place_of_mem_findings h
  split
  · rename_i hpass
    refine List.filter_eq_self.mpr fun f hf => ?_
    obtain ⟨hrule, hplace⟩ := hall f hf
    exact (keeps_outside_iff hplace).mpr (hrule ▸ hpass)
  · rename_i hpass
    refine List.filter_eq_nil_iff.mpr fun f hf hkeeps => ?_
    obtain ⟨hrule, hplace⟩ := hall f hf
    exact hpass (hrule ▸ (keeps_outside_iff hplace).mp hkeeps)

end TextSettings

/-- A scan is an analysis with fewer findings. -/
theorem scanText_some (s : TextSettings) (source kind path : String) :
    scanText s (some source) kind path =
      match Analysis.run s.parse s.nesting (some source) kind s.scheme (s.rules.allows syntaxRule)
          s.markup with
      | (.error fault, notes) => (.error (.manifest fault), notes)
      | (.ok a, notes) =>
        (.ok { path, kind, findings := a.findings.filter (s.keeps (s.heeded source))
               validation := a.validation }, notes) := by
  rw [scanText, TextSettings.heeded]
  cases Analysis.run s.parse s.nesting (some source) kind s.scheme (s.rules.allows syntaxRule)
      s.markup with
  | mk r notes =>
    cases r with
    | error fault => rfl
    | ok a => cases s.directives <;> rfl

/-- **Only the check of a manifest breaks the scan of a text off.** -/
theorem scanText_eq_error_iff {s : TextSettings} {source kind path : String} {fault : ScanFault} :
    (scanText s (some source) kind path).1 = .error fault ↔
      ∃ f, (Manifest.check (some source) kind s.scheme s.nesting).1 = .error f ∧
        fault = .manifest f := by
  rw [scanText_some, Analysis.run]
  by_cases hcode : kind = "code"
  · subst hcode
    simp [Manifest.check, Manifest.isManifestKind]
  · rw [if_neg hcode]
    cases hkind : Manifest.isManifestKind kind with
    | false => simp [Manifest.check, hkind]
    | true =>
      cases Manifest.check (some source) kind s.scheme s.nesting with
      | mk r notes => cases r <;> simp [Except.map, eq_comm]

/-- The report of a scan bears the name and the kind that it was given. -/
theorem path_and_kind_of_scanText {s : TextSettings} {content : Option String} {kind path : String}
    {r : FileReport} (h : (scanText s content kind path).1 = .ok r) :
    r.path = path ∧ r.kind = kind := by
  simp only [scanText] at h
  split at h
  · cases h
  · split at h
    · cases h
    · cases h
      exact ⟨rfl, rfl⟩

/-- **The filter reaches every finding of a text**, whichever check it comes from. -/
theorem passes_of_mem_scanText {s : TextSettings} {content : Option String} {kind path : String}
    {r : FileReport} (h : (scanText s content kind path).1 = .ok r) :
    ∀ f ∈ r.findings, s.rules.Passes f.rule := by
  simp only [scanText] at h
  split at h
  · cases h
  · split at h
    · cases h
    · cases h
      intro f hf
      exact (TextSettings.keeps_iff.mp (List.mem_filter.mp hf).2).1

/-- **What the scan of a text reports.** Code is read line by line, and a rule is reported in a
line exactly if its pattern is found there, it passes the filter and no directive of that line
silences it; its syntax is validated if the rule for it passes. A manifest has the vulnerable
dependencies if their rule passes, whatever directives it holds. Nothing is said of a text of
another kind. -/
theorem scanText_eq (s : TextSettings) (source kind path : String) :
    scanText s (some source) kind path =
      if kind = "code" then
        (.ok { path, kind
               findings := s.codeFindings source
               validation := if s.rules.Passes syntaxRule then
                   some (Diagnosis.validate s.parse source s.markup)
                 else none }, [])
      else if kind = "config" ∨ kind = "json" then
        match Manifest.check (some source) kind s.scheme s.nesting with
        | (.error fault, notes) => (.error (.manifest fault), notes)
        | (.ok outcome, notes) =>
          (.ok { path, kind
                 findings := if s.rules.Passes dependencyRule then outcome.findings else []
                 validation := none }, notes)
      else (.ok { path, kind, findings := [], validation := none }, []) := by
  rw [scanText_some]
  by_cases hcode : kind = "code"
  · have hsyntax : (if s.rules.allows syntaxRule = true then
          some (Analysis.validation? s.parse (some source) s.markup) else none) =
        if s.rules.Passes syntaxRule then some (Diagnosis.validate s.parse source s.markup)
        else none := by
      simp only [RuleFilter.allows_iff, Analysis.validation?]
    simp only [Analysis.run, if_pos hcode, hsyntax, Analysis.weaknesses,
      TextSettings.filter_keeps_weaknesses]
  · by_cases hmanifest : kind = "config" ∨ kind = "json"
    · have hkind : Manifest.isManifestKind kind = true := by
        simpa [Manifest.isManifestKind] using hmanifest
      simp only [Analysis.run, if_neg hcode, if_pos hkind, if_pos hmanifest]
      cases hcheck : Manifest.check (some source) kind s.scheme s.nesting with
      | mk r notes =>
        cases r with
        | error fault => rfl
        | ok outcome =>
          have hok : (Manifest.check (some source) kind s.scheme s.nesting).1 = .ok outcome := by
            rw [hcheck]
          simp only [Except.map, TextSettings.filter_keeps_dependencies hok]
    · have hkind : ¬ Manifest.isManifestKind kind = true := by
        simpa [Manifest.isManifestKind] using hmanifest
      simp only [Analysis.run, if_neg hcode, if_neg hkind, if_neg hmanifest, List.filter_nil]

end Advisor
