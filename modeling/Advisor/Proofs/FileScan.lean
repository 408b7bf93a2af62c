import Advisor.Proofs.TextScan
import Advisor.Proofs.Utf8
import Advisor.Proofs.Walk
import Advisor.Scan.Files
import Advisor.Script.Tree
import Mathlib

/-!
# What the scan of files opens and reports

A scan goes through the candidates of the walk, and opens those that are accepted and whose kind is
known. `files_fst` takes the two apart: first the list of the files that are opened (`targets`),
then one report for each of them, in that order, unless a report breaks the scan off.
-/

namespace Advisor

/-! ## Going through a list until something breaks off -/

section Traversal

variable {α β ε : Type} {f : α → Except ε β}

theorem mapM_eq_ok_iff {l : List α} {r : List β} :
    l.mapM f = .ok r ↔ List.Forall₂ (fun a b => f a = .ok b) l r := by
  induction l generalizing r with
  | nil => simp [pure, Except.pure, eq_comm]
  | cons a rest ih =>
    rw [List.mapM_cons]
    cases hf : f a with
    | error e => simp [bind, Except.bind, List.forall₂_cons_left_iff, hf]
    | ok b =>
      cases hr : rest.mapM f with
      | error e =>
        have hno : ∀ bs, ¬ List.Forall₂ (fun a b => f a = .ok b) rest bs := by
          intro bs h
          rw [ih.mpr h] at hr
          cases hr
        simp [bind, Except.bind, List.forall₂_cons_left_iff, hf, hno]
      | ok bs =>
        simp only [bind, Except.bind, pure, Except.pure, Except.ok.injEq,
          List.forall₂_cons_left_iff, hf, ← ih, hr]
        constructor
        · rintro rfl
          exact ⟨b, bs, rfl, rfl, rfl⟩
        · rintro ⟨b', bs', rfl, rfl, rfl⟩
          rfl

theorem mapM_congr_of_mem {g : α → Except ε β} {l : List α} (h : ∀ a ∈ l, f a = g a) :
    l.mapM f = l.mapM g := by
  induction l with
  | nil => rfl
  | cons a rest ih =>
    obtain ⟨ha, hrest⟩ := List.forall_mem_cons.mp h
    rw [List.mapM_cons, List.mapM_cons, ha, ih hrest]

theorem exists_mem_of_forall₂ {R : α → β → Prop} {l : List α} {r : List β}
    (h : List.Forall₂ R l r) : ∀ a ∈ l, ∃ b ∈ r, R a b := by
  induction h with
  | nil => simp
  | @cons a b l r hab _ ih =>
    refine List.forall_mem_cons.mpr ⟨⟨b, List.mem_cons_self, hab⟩, ?_⟩
    intro a' ha'
    obtain ⟨b', hb', hR⟩ := ih a' ha'
    exact ⟨b', List.mem_cons_of_mem _ hb', hR⟩

/-- What breaks off a pass through a list breaks it off at some entry. -/
theorem exists_mem_of_mapM_eq_error {l : List α} {e : ε} (h : l.mapM f = .error e) :
    ∃ a ∈ l, f a = .error e := by
  induction l with
  | nil => cases h
  | cons a rest ih =>
    rw [List.mapM_cons] at h
    cases hf : f a with
    | error e' =>
      rw [hf] at h
      cases h
      exact ⟨a, List.mem_cons_self, hf⟩
    | ok b =>
      cases hr : rest.mapM f with
      | error e' =>
        rw [hf, hr] at h
        cases h
        obtain ⟨a', ha', hf'⟩ := ih hr
        exact ⟨a', List.mem_cons_of_mem _ ha', hf'⟩
      | ok bs =>
        rw [hf, hr] at h
        cases h

/-- And any entry that breaks off is in the way of an answer. -/
theorem exists_mapM_eq_error_of_mem {l : List α} {a : α} {e : ε} (ha : a ∈ l)
    (hf : f a = .error e) : ∃ e', l.mapM f = .error e' := by
  cases h : l.mapM f with
  | error e' => exact ⟨e', rfl⟩
  | ok r =>
    obtain ⟨b, -, hb⟩ := exists_mem_of_forall₂ (mapM_eq_ok_iff.mp h) a ha
    rw [hf] at hb
    cases hb

/-- What is picked from a part of a list is picked, in the same order, from the whole. -/
theorem filterMap_sublist {f g : α → Option β} {l l' : List α} (h : l.Sublist l')
    (hfg : ∀ a b, f a = some b → g a = some b) : (l.filterMap f).Sublist (l'.filterMap g) := by
  refine List.Sublist.trans ?_ (h.filterMap g)
  clear h
  induction l with
  | nil => exact .slnil
  | cons a rest ih =>
    cases hf : f a with
    | none =>
      rw [List.filterMap_cons_none hf]
      exact ih.trans ((List.sublist_cons_self a rest).filterMap g)
    | some b =>
      rw [List.filterMap_cons_some hf, List.filterMap_cons_some (hfg a b hf)]
      exact ih.cons_cons b

end Traversal

/-! ## Adding reports -/

namespace ScanResult

/-- A result with some reports more, each counted as one file. -/
def extended (r : ScanResult) (reports : List FileReport) : ScanResult :=
  { files := r.files ++ reports, filesScanned := r.filesScanned + reports.length }

theorem extended_nil (r : ScanResult) : r.extended [] = r := by
  simp [extended]

theorem extended_extended (r : ScanResult) (xs ys : List FileReport) :
    (r.extended xs).extended ys = r.extended (xs ++ ys) := by
  simp [extended, Int.add_assoc]

end ScanResult

namespace Scan

open Selection

variable {w : World} {s : ScanSettings} {root : PathName} {base place : List String}

/-! ## The files that are opened -/

/-- The kind of a file: the one that is set for all, or else that of its name. -/
def kindOf? (s : ScanSettings) (place : List String) : Option String :=
  (s.kind.filter fun k => !k.isEmpty) <|> kindOfName? (pathOf place)

/-- A candidate with its kind, if it is opened. -/
def target? (w : World) (s : ScanSettings) (place : List String) : Option (List String × String) :=
  if s.selection.judge w place = .accepted then (kindOf? s place).map (place, ·) else none

theorem target?_eq_some_iff {c : List String × String} :
    target? w s place = some c ↔
      c.1 = place ∧ s.selection.judge w place = .accepted ∧ kindOf? s place = some c.2 := by
  obtain ⟨p, kind⟩ := c
  by_cases h : s.selection.judge w place = .accepted
  · rw [target?, if_pos h, Option.map_eq_some_iff]
    constructor
    · rintro ⟨k, hk, heq⟩
      cases heq
      exact ⟨rfl, h, hk⟩
    · rintro ⟨rfl, -, hk⟩
      exact ⟨kind, hk, rfl⟩
  · simp [target?, h]

/-- A file that passes every test is opened. -/
theorem target?_of_allowed {kind : String}
    (hgen : s.selection.skipGenerated = true → isGenerated (pathOf place) = false)
    (hallowed : s.selection.Allowed w place) (hkind : kindOf? s place = some kind) :
    target? w s place = some (place, kind) :=
  target?_eq_some_iff.mpr ⟨rfl, judge_eq_accepted_iff.mpr ⟨hgen, hallowed⟩, hkind⟩

/-- **A candidate is opened or passed over.** One that is opened adds a report and counts as one
file. -/
theorem candidate_fst (w : World) (s : ScanSettings) (base : List String) (sofar : ScanResult)
    (place : List String) :
    (candidate w s base sofar place).1 =
      match target? w s place with
      | none => .ok sofar
      | some c => (selected w s base c.1 c.2).1.map fun x => sofar.extended [x] := by
  rw [candidate, target?, kindOf?]
  cases s.selection.judge w place with
  | rejected => rfl
  | tooLarge => rfl
  | accepted =>
    rw [if_pos rfl]
    cases (s.kind.filter fun k => !k.isEmpty) <|> kindOfName? (pathOf place) <;> rfl

/-- One candidate more. -/
theorem candidates_cons_fst (w : World) (s : ScanSettings) (base : List String)
    (sofar : ScanResult) (place : List String) (rest : List (List String)) :
    (Scan.candidates w s base sofar (place :: rest)).1 =
      (candidate w s base sofar place).1 >>= fun next =>
        (Scan.candidates w s base next rest).1 := by
  rw [Scan.candidates]
  cases candidate w s base sofar place with
  | mk r events => cases r <;> rfl

/-- **Candidates one after the other**: a report for each that is opened, until one breaks off, and
as many files counted as there are reports. By induction on the candidates, whatever has been found
before them. -/
theorem candidates_fst (w : World) (s : ScanSettings) (base : List String) (sofar : ScanResult)
    (places : List (List String)) :
    (Scan.candidates w s base sofar places).1 =
      ((places.filterMap (target? w s)).mapM fun c => (selected w s base c.1 c.2).1).map
        sofar.extended := by
  induction places generalizing sofar with
  | nil => exact congrArg Except.ok sofar.extended_nil.symm
  | cons p rest ih =>
    rw [candidates_cons_fst, candidate_fst]
    cases ht : target? w s p with
    | none =>
      rw [List.filterMap_cons_none ht]
      exact ih sofar
    | some c =>
      rw [List.filterMap_cons_some ht, List.mapM_cons]
      dsimp only
      cases (selected w s base c.1 c.2).1 with
      | error fault => rfl
      | ok x =>
        refine (ih (sofar.extended [x])).trans ?_
        cases (rest.filterMap (target? w s)).mapM fun c => (selected w s base c.1 c.2).1 with
        | error fault => rfl
        | ok reports => exact congrArg Except.ok (sofar.extended_extended [x] reports)

/-! ## The scan as a whole -/

/-- The files that a scan opens, in their order and each with its kind. -/
def targets (w : World) (s : ScanSettings) (place : List String) : List (List String × String) :=
  (candidatesOf w s.selection place).1.filterMap (target? w s)

/-- **A scan is one report for each file that it opens**, in their order, unless one of the reports
breaks it off. -/
theorem files_fst (w : World) (s : ScanSettings) (root : PathName) :
    (files w s root).1 =
      match w.resolve root with
      | .error _ => .error .linkLoop
      | .ok place =>
        ((targets w s place).mapM fun c =>
          (selected w s (candidatesOf w s.selection place).2 c.1 c.2).1).map
            fun reports => { files := reports, filesScanned := reports.length } := by
  rw [files]
  cases w.resolve root with
  | error fault => rfl
  | ok place =>
    simp only [targets, candidates_fst]
    congr 1
    funext reports
    simp [ScanResult.extended]

/-! ## One report -/

/-- The file at a place cannot be read. -/
def Unreadable (w : World) (p : List String) : Prop :=
  ∃ real bytes reason, w.find? (pathOf p) = some (real, .file bytes (some reason))

/-- The settings for the text of one file: markup is allowed in files that are named for it. -/
def textSettings (s : ScanSettings) (p : List String) : TextSettings :=
  { s.text with markup := s.text.markup || (pathOf p).suffix == ".jsx" }

/-- The report of a file that cannot be read. -/
theorem selected_of_unreadable {real : List String} {bytes : ByteArray} {reason : String}
    {p : List String} (hfind : w.find? (pathOf p) = some (real, .file bytes (some reason)))
    (base : List String) (kind : String) :
    (selected w s base p kind).1 = .ok (unreadable (reportedPath w base p) kind reason) := by
  rw [selected, hfind]

/-- **What is reported of an opened file**: that it cannot be read, or the scan of its text. -/
theorem selected_cases {c : List String × String} (hc : target? w s place = some c)
    (base : List String) :
    (∃ real bytes reason, w.find? (pathOf c.1) = some (real, .file bytes (some reason)) ∧
        (selected w s base c.1 c.2).1 = .ok (unreadable (reportedPath w base c.1) c.2 reason)) ∨
      ∃ real bytes, w.find? (pathOf c.1) = some (real, .file bytes none) ∧
        (selected w s base c.1 c.2).1 =
          (scanText (textSettings s c.1) (some (contentOf bytes)) c.2
            (reportedPath w base c.1)).1 := by
  obtain ⟨hplace, hacc, -⟩ := target?_eq_some_iff.mp hc
  subst hplace
  obtain ⟨-, real, bytes, fault, hfind, -⟩ := judge_eq_accepted_iff.mp hacc
  cases fault with
  | some reason => exact .inl ⟨real, bytes, reason, hfind, selected_of_unreadable hfind ..⟩
  | none => exact .inr ⟨real, bytes, hfind, by rw [selected, hfind]; rfl⟩

/-- A report bears the name and the kind of the file that was opened. -/
theorem path_and_kind_of_selected {c : List String × String} (hc : target? w s place = some c)
    {x : FileReport} (h : (selected w s base c.1 c.2).1 = .ok x) :
    x.path = reportedPath w base c.1 ∧ x.kind = c.2 := by
  rcases selected_cases hc base with ⟨_, _, reason, -, hsel⟩ | ⟨_, bytes, -, hsel⟩
  · rw [hsel] at h
    cases h
    exact ⟨rfl, rfl⟩
  · rw [hsel] at h
    exact path_and_kind_of_scanText h

/-- **Opened files that break a scan off**: manifests that can be read and whose check breaks
off. -/
theorem selected_eq_error_iff {c : List String × String} (hc : target? w s place = some c)
    (base : List String) {fault : ScanFault} :
    (selected w s base c.1 c.2).1 = .error fault ↔
      ∃ f real bytes, w.find? (pathOf c.1) = some (real, .file bytes none) ∧
        (Manifest.check (some (contentOf bytes)) c.2 s.text.scheme s.text.nesting).1 = .error f ∧
        fault = .manifest f := by
  rcases selected_cases hc base with ⟨real, bytes, reason, hfind, hsel⟩ | ⟨real, bytes, hfind, hsel⟩
  · simp [hsel, hfind]
  · rw [hsel, scanText_eq_error_iff]
    constructor
    · rintro ⟨f, hf, rfl⟩
      exact ⟨f, real, bytes, hfind, hf, rfl⟩
    · rintro ⟨f, real', bytes', hfind', hf, rfl⟩
      rw [hfind] at hfind'
      cases hfind'
      exact ⟨f, hf, rfl⟩

theorem exists_target?_of_mem_targets {c : List String × String} (hc : c ∈ targets w s place) :
    ∃ p ∈ (candidatesOf w s.selection place).1, target? w s p = some c := List.mem_filterMap.mp hc

/-- **What a scan that is not broken off has done**: it has reported on each file that it opens, in
their order. -/
theorem files_eq_ok_iff {r : ScanResult} :
    (files w s root).1 = .ok r ↔ ∃ place, w.resolve root = .ok place ∧
      List.Forall₂
        (fun c x => (selected w s (candidatesOf w s.selection place).2 c.1 c.2).1 = .ok x)
        (targets w s place) r.files ∧ r.filesScanned = r.files.length := by
  obtain ⟨reports, scanned⟩ := r
  rw [files_fst]
  cases w.resolve root with
  | error fault => simp
  | ok place =>
    simp only [Except.ok.injEq, exists_eq_left', ← mapM_eq_ok_iff]
    cases (targets w s place).mapM fun c =>
        (selected w s (candidatesOf w s.selection place).2 c.1 c.2).1 with
    | error fault => simp [Except.map]
    | ok reports' =>
      simp only [Except.map, Except.ok.injEq, ScanResult.mk.injEq]
      constructor
      · rintro ⟨rfl, rfl⟩
        exact ⟨rfl, rfl⟩
      · rintro ⟨rfl, rfl⟩
        exact ⟨rfl, rfl⟩

/-- **What breaks a scan off**: a loop of links at its root, or the manifest of some file that is
opened. -/
theorem exists_manifest_of_files_eq_error {fault : ScanFault} (hroot : w.resolve root = .ok place)
    (h : (files w s root).1 = .error fault) :
    ∃ c ∈ targets w s place, ∃ f real bytes, w.find? (pathOf c.1) = some (real, .file bytes none) ∧
      (Manifest.check (some (contentOf bytes)) c.2 s.text.scheme s.text.nesting).1 = .error f ∧
      fault = .manifest f := by
  rw [files_fst, hroot] at h
  cases hm : (targets w s place).mapM fun c =>
      (selected w s (candidatesOf w s.selection place).2 c.1 c.2).1 with
  | ok reports =>
    simp only [hm] at h
    cases h
  | error fault' =>
    simp only [hm] at h
    cases h
    obtain ⟨c, hc, hsel⟩ := exists_mem_of_mapM_eq_error hm
    obtain ⟨p, -, ht⟩ := exists_target?_of_mem_targets hc
    exact ⟨c, hc, (selected_eq_error_iff ht _).mp hsel⟩

/-! ## The filter of the rules -/

/-- The findings of a report pass the filter, unless the file cannot be read: what is said of that
does not go through it. -/
theorem passes_or_unreadable_of_selected {c : List String × String}
    (hc : target? w s place = some c) {x : FileReport}
    (h : (selected w s base c.1 c.2).1 = .ok x) :
    (Unreadable w c.1 ∧ ∃ f, x.findings = [f] ∧ f.rule = unreadableRule) ∨
      (¬ Unreadable w c.1 ∧ ∀ f ∈ x.findings, s.text.rules.Passes f.rule) := by
  rcases selected_cases hc base with ⟨real, bytes, reason, hfind, hsel⟩ | ⟨real, bytes, hfind, hsel⟩
  · rw [hsel] at h
    cases h
    exact .inl ⟨⟨real, bytes, reason, hfind⟩, _, rfl, rfl⟩
  · rw [hsel] at h
    refine .inr ⟨?_, passes_of_mem_scanText (s := textSettings s c.1) h⟩
    rintro ⟨real', bytes', reason, hfind'⟩
    rw [hfind] at hfind'
    cases hfind'

/-- **How far the filter of the rules reaches.** A finding that does not pass it is all that is
said of a file that cannot be read. So the filter holds for a whole scan exactly if it lets that
finding through or no file that is opened is such a one. -/
theorem findings_pass_iff {r : ScanResult} (h : (files w s root).1 = .ok r) :
    ∃ place, w.resolve root = .ok place ∧
      (∀ x ∈ r.files, ∀ f ∈ x.findings, s.text.rules.Passes f.rule ∨
        (f.rule = unreadableRule ∧ x.findings = [f] ∧ ∃ c ∈ targets w s place, Unreadable w c.1 ∧
          x.path = reportedPath w (candidatesOf w s.selection place).2 c.1)) ∧
      ((∀ x ∈ r.files, ∀ f ∈ x.findings, s.text.rules.Passes f.rule) ↔
        s.text.rules.Passes unreadableRule ∨ ∀ c ∈ targets w s place, ¬ Unreadable w c.1) := by
  obtain ⟨place, hplace, hreports, -⟩ := files_eq_ok_iff.mp h
  have hcase : ∀ x ∈ r.files, ∃ c ∈ targets w s place,
      x.path = reportedPath w (candidatesOf w s.selection place).2 c.1 ∧
      ((Unreadable w c.1 ∧ ∃ f, x.findings = [f] ∧ f.rule = unreadableRule) ∨
        (¬ Unreadable w c.1 ∧ ∀ f ∈ x.findings, s.text.rules.Passes f.rule)) := by
    intro x hx
    obtain ⟨c, hc, hsel⟩ := exists_mem_of_forall₂ (R := flip _) hreports.flip x hx
    obtain ⟨p, -, ht⟩ := exists_target?_of_mem_targets hc
    exact ⟨c, hc, (path_and_kind_of_selected ht hsel).1, passes_or_unreadable_of_selected ht hsel⟩
  have hreach : ∀ x ∈ r.files, ∀ f ∈ x.findings, s.text.rules.Passes f.rule ∨
      (f.rule = unreadableRule ∧ x.findings = [f] ∧ ∃ c ∈ targets w s place, Unreadable w c.1 ∧
        x.path = reportedPath w (candidatesOf w s.selection place).2 c.1) := by
    intro x hx f hf
    obtain ⟨c, hc, hpath, ⟨hun, g, hg, hrule⟩ | ⟨-, hpass⟩⟩ := hcase x hx
    · rw [hg, List.mem_singleton] at hf
      subst hf
      exact .inr ⟨hrule, hg, c, hc, hun, hpath⟩
    · exact .inl (hpass f hf)
  refine ⟨place, hplace, hreach, ?_, ?_⟩
  · intro hall
    refine or_iff_not_imp_left.mpr fun hrule c hc hun => hrule ?_
    obtain ⟨x, hx, hsel⟩ := exists_mem_of_forall₂ hreports c hc
    obtain ⟨p, -, ht⟩ := exists_target?_of_mem_targets hc
    rcases passes_or_unreadable_of_selected ht hsel with ⟨-, f, hf, hr⟩ | ⟨hread, -⟩
    · rw [← hr]
      exact hall x hx f (by simp [hf])
    · exact absurd hun hread
  · rintro (hrule | hread) x hx f hf
    · rcases hreach x hx f hf with hpass | ⟨hr, -⟩
      · exact hpass
      · rw [hr]
        exact hrule
    · rcases hreach x hx f hf with hpass | ⟨-, -, c, hc, hun, -⟩
      · exact hpass
      · exact absurd hun (hread c hc)

/-! ## Scans of some files of code -/

/-- Code of up to a megabyte that no tool has written. -/
def writtenCode : Selection :=
  { excludes := [], extensions := [".js"], maxKilobytes := 1024, skipGenerated := true }

/-- A scan of code, with some filter of the rules. -/
def filteredBy (rules : RuleFilter) : ScanSettings :=
  { selection := writtenCode
    kind := none
    text := { rules, directives := true, scheme := .lexical, markup := false
              nesting := Machine.usual.manifestNesting, parse := Script.parse } }

/-- **A scan of code** opens every file that the walk comes to. -/
theorem files_of_code {places : List (List String)} {report : List String → FileReport}
    (rules : RuleFilter) (hroot : w.resolve root = .ok place)
    (hwalk : candidatesOf w writtenCode place = (places, base))
    (hfile : ∀ p ∈ places, ∃ real bytes fault,
      w.find? (pathOf p) = some (real, .file bytes fault) ∧ (bytes.size : Int) ≤ 1024 * 1024)
    (hname : ∀ p ∈ places, isGenerated (pathOf p) = false ∧
      (pathOf p).suffix ∈ writtenCode.extensions ∧ kindOfName? (pathOf p) = some "code")
    (hreport : ∀ p ∈ places, (selected w (filteredBy rules) base p "code").1 = .ok (report p)) :
    targets w (filteredBy rules) place = places.map (·, "code") ∧
      (files w (filteredBy rules) root).1 =
        .ok { files := places.map report, filesScanned := places.length } := by
  have hcandidates : candidatesOf w (filteredBy rules).selection place = (places, base) := hwalk
  have htarget : ∀ p ∈ places, target? w (filteredBy rules) p = some (p, "code") := by
    intro p hp
    obtain ⟨hgen, hsuffix, hkind⟩ := hname p hp
    obtain ⟨real, bytes, fault, hfind, hsize⟩ := hfile p hp
    have hallowed : writtenCode.Allowed w p := ⟨_, _, _, hfind, fun _ => hsize, hsuffix⟩
    have hkind : kindOf? (filteredBy rules) p = some "code" := by
      rw [kindOf?, hkind]
      rfl
    exact target?_of_allowed (fun _ => hgen) hallowed hkind
  have htargets : targets w (filteredBy rules) place = places.map (·, "code") := by
    rw [targets, hcandidates, List.filterMap_congr htarget, List.filterMap_eq_map']
  refine ⟨htargets, files_eq_ok_iff.mpr ⟨place, hroot, ?_, by rw [List.length_map]⟩⟩
  rw [htargets, hcandidates, List.forall₂_map_left_iff, List.forall₂_map_right_iff,
    List.forall₂_same]
  exact hreport

/-- All rules but the one for the syntax. -/
def unparsed : RuleFilter := ⟨[], [syntaxRule]⟩

/-- Code with a weakness in its only line. -/
def drawing : String := "Math.random()"

/-- What is said of it, in some line, where the syntax is not looked at. -/
def drawnAt (line : Nat) (path : String) : FileReport :=
  { path, kind := "code", findings := [Weakness.report Weakness.rules[3] line], validation := none }

theorem scanText_drawing (path : String) :
    scanText (filteredBy unparsed).text (some drawing) "code" path =
      (.ok (drawnAt 1 path), []) := by
  cbv

theorem selected_of_drawing {s : ScanSettings} {real p : List String}
    (hs : s.text = (filteredBy unparsed).text)
    (hfind : w.find? (pathOf p) = some (real, .file drawing.toUTF8 none))
    (hsuffix : (pathOf p).suffix = ".js") (base : List String) :
    selected w s base p "code" = (.ok (drawnAt 1 (reportedPath w base p)), []) := by
  have hcontent : contentOf drawing.toUTF8 = drawing := contentOf_toUTF8 (by decide)
  have hmarkup : ((filteredBy unparsed).text.markup || (pathOf p).suffix == ".jsx") = false := by
    rw [hsuffix]
    decide
  have hscan : scanText { (filteredBy unparsed).text with markup := false } (some drawing) "code"
      (reportedPath w base p) = (.ok (drawnAt 1 (reportedPath w base p)), []) :=
    scanText_drawing _
  rw [selected, hfind]
  simp only [hs, hcontent, hmarkup, hscan, List.map_nil]

section Alike

variable {places : List (List String)} (hroot : w.resolve root = .ok place)
  (hwalk : candidatesOf w writtenCode place = (places, base))
  (hname : ∀ p ∈ places, isGenerated (pathOf p) = false ∧
    (pathOf p).suffix ∈ writtenCode.extensions ∧ kindOfName? (pathOf p) = some "code")

include hroot hwalk hname

/-- The same for files with one weakness each. -/
theorem files_of_drawing
    (hfind : ∀ p ∈ places, ∃ real, w.find? (pathOf p) = some (real, .file drawing.toUTF8 none)) :
    targets w (filteredBy unparsed) place = places.map (·, "code") ∧
      (files w (filteredBy unparsed) root).1 =
        .ok { files := places.map fun p => drawnAt 1 (reportedPath w base p)
              filesScanned := places.length } := by
  have hsize : (drawing.toUTF8.size : Int) ≤ 1024 * 1024 := by decide
  refine files_of_code unparsed hroot hwalk (fun p hp => ?_) hname fun p hp => ?_
  · obtain ⟨real, hreal⟩ := hfind p hp
    exact ⟨real, _, none, hreal, hsize⟩
  · obtain ⟨real, hreal⟩ := hfind p hp
    rw [selected_of_drawing rfl hreal (List.mem_singleton.mp (hname p hp).2.1)]

/-- And for files that cannot be read, whatever the filter. -/
theorem files_of_unreadable {reason : String} (rules : RuleFilter)
    (hfind : ∀ p ∈ places, ∃ real,
      w.find? (pathOf p) = some (real, .file ByteArray.empty (some reason))) :
    targets w (filteredBy rules) place = places.map (·, "code") ∧
      (files w (filteredBy rules) root).1 =
        .ok { files := places.map fun p => unreadable (reportedPath w base p) "code" reason
              filesScanned := places.length } := by
  refine files_of_code rules hroot hwalk (fun p hp => ?_) hname fun p hp => ?_
  · obtain ⟨real, hreal⟩ := hfind p hp
    exact ⟨real, _, _, hreal, by decide⟩
  · obtain ⟨real, hreal⟩ := hfind p hp
    exact selected_of_unreadable hreal base "code"

end Alike

/-- A folder with one file, which cannot be read. -/
def locked : World := ⟨.folder [("a.js", .file ByteArray.empty (some "denied"))], [], .usual⟩

/-- **The file that cannot be read is reported whatever the filter.** -/
theorem files_locked (rules : RuleFilter) :
    (files locked (filteredBy rules) ⟨"", []⟩).1 =
      .ok { files := [unreadable "a.js" "code" "denied"], filesScanned := 1 } := by
  have hroot : locked.resolve ⟨"", []⟩ = .ok [] := by cbv
  have hwalk : candidatesOf locked writtenCode [] = ([["a.js"]], []) := by cbv
  have hfind : locked.find? (pathOf ["a.js"]) =
      some (["a.js"], .file ByteArray.empty (some "denied")) := by cbv
  have hname : reportedPath locked [] ["a.js"] = "a.js" := by cbv
  obtain ⟨-, hfiles⟩ := files_of_unreadable hroot hwalk (by decide) rules
    (List.forall_mem_singleton.mpr ⟨_, hfind⟩)
  rw [hfiles, List.map_singleton, hname]
  rfl

/-- With the rule for such files enabled, the filter holds. -/
theorem findings_pass_locked :
    (files locked (filteredBy ⟨[unreadableRule], []⟩) ⟨"", []⟩).1 =
        .ok { files := [unreadable "a.js" "code" "denied"], filesScanned := 1 } ∧
      ∀ f ∈ (unreadable "a.js" "code" "denied").findings,
        RuleFilter.Passes ⟨[unreadableRule], []⟩ f.rule := by
  obtain ⟨_, -, -, hiff⟩ := findings_pass_iff (files_locked ⟨[unreadableRule], []⟩)
  have hrule : RuleFilter.Passes ⟨[unreadableRule], []⟩ unreadableRule :=
    ⟨by decide, fun _ => by decide⟩
  exact ⟨files_locked _, hiff.mpr (.inl hrule) _ List.mem_cons_self⟩

/-- With it disabled, the finding is there all the same. -/
theorem disabled_rule_reported :
    ∃ r, (files locked (filteredBy ⟨[], [unreadableRule]⟩) ⟨"", []⟩).1 = .ok r ∧
      ∃ x ∈ r.files, ∃ f ∈ x.findings,
        f.rule ∈ (filteredBy ⟨[], [unreadableRule]⟩).text.rules.disabled :=
  ⟨_, files_locked _, _, List.mem_cons_self, _, List.mem_cons_self, List.mem_cons_self⟩

end Scan

end Advisor
