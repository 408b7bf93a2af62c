import Advisor.Proofs.GateOrder
import Advisor.Proofs.Tally

/-!
# The order in which things are found

A gate counts findings and lists broken files. `Gate.reasons_eq_mapM` takes it apart into its
conditions, and `Condition.mem_reasons_iff` says what each of them adds. None looks at more of a
result than how often each finding occurs and which files are broken (`Condition.reasons_congr`),
and this much survives every change to its arrangement (`ScanResult.Move.alike`). So the verdict,
texts included, is the same for all arrangements: `Gate.verdict_of_rearranged`.
-/

namespace Advisor

/-! ## Arrangements of a result -/

namespace ScanResult

/-- **One change to the arrangement of a result.** -/
inductive Move : ScanResult → ScanResult → Prop
  /-- The files come in another order. -/
  | files {files files' : List FileReport} {n : Int} :
      files.Perm files' → Move ⟨files, n⟩ ⟨files', n⟩
  /-- The findings of one file come in another order. -/
  | findings {before after : List FileReport} {x : FileReport} {findings : List Finding} {n : Int} :
      x.findings.Perm findings →
      Move ⟨before ++ x :: after, n⟩ ⟨before ++ { x with findings } :: after, n⟩
  /-- A finding goes from one file to another. -/
  | moved {before between after : List FileReport} {x y : FileReport}
      {front back front' back' : List Finding} {f : Finding} {n : Int} :
      x.findings = front ++ f :: back → y.findings = front' ++ back' →
      Move ⟨before ++ x :: between ++ y :: after, n⟩
        ⟨before ++ { x with findings := front ++ back } :: between ++
          { y with findings := front' ++ f :: back' } :: after, n⟩
  /-- A file with a syntax error has one more, the same again or another. -/
  | repeated {before after : List FileReport} {x : FileReport} {v : Validation}
      {front back : List Diagnostic} {e : Diagnostic} {n : Int} :
      x.validation = some v → v.errors = front ++ back → v.errors ≠ [] →
      Move ⟨before ++ x :: after, n⟩
        ⟨before ++ { x with validation := some { v with errors := front ++ e :: back } } :: after, n⟩

/-- **Two arrangements of a result**: any number of moves leads from one to the other, back and
forth. -/
def Rearranged : ScanResult → ScanResult → Prop := Relation.EqvGen Move

/-- The same findings occur as often, and the same files are broken. -/
structure Alike (r r' : ScanResult) : Prop where
  findings : (r.findings.map (·.2)).Perm (r'.findings.map (·.2))
  broken : ∀ path, path ∈ r.syntaxErrors.map (·.1) ↔ path ∈ r'.syntaxErrors.map (·.1)

variable {r r' : ScanResult}

theorem map_snd_findings (r : ScanResult) :
    r.findings.map (·.2) = r.files.flatMap (·.findings) := by
  simp only [findings, List.map_flatMap, List.map_map, Function.comp_def, List.map_id']

/-- The broken files are those that have some error. -/
theorem mem_map_fst_syntaxErrors_iff {path : String} :
    path ∈ r.syntaxErrors.map (·.1) ↔
      ∃ x ∈ r.files, x.path = path ∧ ∃ v, x.validation = some v ∧ v.errors ≠ [] := by
  rw [syntaxErrors, List.map_flatMap, List.mem_flatMap]
  refine exists_congr fun x => and_congr_right fun _ => ?_
  cases x.validation with
  | none => simp
  | some v =>
    simp only [List.map_map, List.mem_map, Function.comp_apply, Option.some.injEq, exists_eq_left',
      ne_eq, List.eq_nil_iff_forall_not_mem, not_forall, not_not]
    constructor
    · rintro ⟨e, he, hpath⟩
      exact ⟨hpath, e, he⟩
    · rintro ⟨hpath, e, he⟩
      exact ⟨e, he, hpath⟩

/-- **What a move keeps.** -/
theorem Move.alike (h : Move r r') : Alike r r' := by
  cases h with
  | files hperm =>
    constructor
    · simp only [map_snd_findings]
      exact hperm.flatMap_right _
    · intro path
      simp only [mem_map_fst_syntaxErrors_iff, hperm.mem_iff]
  | findings hperm =>
    constructor
    · simp only [map_snd_findings, List.flatMap_append, List.flatMap_cons]
      exact (hperm.append_right _).append_left _
    · intro path
      simp only [mem_map_fst_syntaxErrors_iff, List.mem_append, List.mem_cons, or_and_right,
        exists_or, exists_eq_left]
  | @moved before between after x y front back front' back' f n hx hy =>
    constructor
    · simp only [map_snd_findings, List.flatMap_append, List.flatMap_cons, hx, hy]
      rw [List.perm_iff_count]
      intro f'
      simp only [List.count_append, List.count_cons]
      omega
    · intro path
      simp only [mem_map_fst_syntaxErrors_iff, List.mem_append, List.mem_cons, or_and_right,
        exists_or, exists_eq_left]
  | repeated hv herrors hne =>
    constructor
    · simp only [map_snd_findings, List.flatMap_append, List.flatMap_cons]
      exact .refl _
    · intro path
      simp only [mem_map_fst_syntaxErrors_iff, List.mem_append, List.mem_cons, or_and_right,
        exists_or, exists_eq_left, hv, Option.some.injEq, exists_eq_left', hne, ne_eq,
        List.append_eq_nil_iff, reduceCtorEq, and_false, not_false_eq_true, and_true]

theorem Alike.refl (r : ScanResult) : Alike r r := ⟨.refl _, fun _ => Iff.rfl⟩

theorem Alike.symm (h : Alike r r') : Alike r' r :=
  ⟨h.findings.symm, fun path => (h.broken path).symm⟩

theorem Alike.trans {r'' : ScanResult} (h : Alike r r') (h' : Alike r' r'') : Alike r r'' :=
  ⟨h.findings.trans h'.findings, fun path => (h.broken path).trans (h'.broken path)⟩

/-- And so do any number of moves. -/
theorem Rearranged.alike (h : Rearranged r r') : Alike r r' := by
  induction h with
  | rel _ _ hmove => exact hmove.alike
  | refl r => exact .refl r
  | symm _ _ _ ih => exact ih.symm
  | trans _ _ _ _ _ ih ih' => exact ih.trans ih'

end ScanResult

/-- The list of names, in order and each once, depends on nothing but which names there are. -/
theorem Text.distinct_congr {names others : List String} (h : ∀ x, x ∈ names ↔ x ∈ others) :
    distinct names = distinct others := by
  have hperm : (distinct names).Perm (distinct others) :=
    (distinct_perm_dedup h).trans (distinct_perm_dedup fun _ => Iff.rfl).symm
  exact hperm.eq_of_pairwise (fun _ _ _ _ hab hba => absurd hba hab.asymm)
    (pairwise_distinct names) (pairwise_distinct others)

/-! ## The conditions of a gate -/

/-- What a gate asks for. -/
inductive Condition where
  | worst
  | issues
  | count (s : Severity)
  | broken
  deriving DecidableEq

namespace Condition

variable {g : Gate} {r r' : ScanResult}

/-- The conditions in the order in which a gate asks for them. -/
def all : List Condition :=
  [.worst, .issues, .count .low, .count .medium, .count .high, .count .critical, .broken]

theorem mem_all (c : Condition) : c ∈ all := by
  cases c with
  | count s => cases s <;> decide
  | worst | issues | broken => decide

/-- **A condition fails, for a reason.** -/
inductive Fails (g : Gate) (r : ScanResult) : Condition → String → Prop
  /-- Some finding is as bad as the gate allows none to be. -/
  | worst {threshold s : Severity} {f : Finding} : g.failOn = some threshold.name →
      f ∈ r.findings.map (·.2) → f.severity = s.name → threshold.rank ≤ s.rank →
      Fails g r .worst ("Detected finding severity >= '" ++ threshold.name ++ "'")
  /-- There are too many findings. -/
  | issues {limit : Setting} : g.maxIssues = some limit →
      limit.isBelow r.findings.length = .ok true →
      Fails g r .issues (Gate.totalReason r.findings.length limit)
  /-- There are too many findings of one severity. -/
  | count {s : Severity} {limit : Setting} : g.limit s = some limit →
      limit.isBelow (s.count (r.findings.map (·.2))) = .ok true →
      Fails g r (.count s) (Gate.numberReason s (s.count (r.findings.map (·.2))) limit)
  /-- Some files are broken. -/
  | broken : g.failOnBrokenSyntax = true → r.syntaxErrors ≠ [] →
      Fails g r .broken
        ("Syntax errors in " ++ (Text.distinct (r.syntaxErrors.map (·.1))).length.repr ++
          " file(s): " ++ ", ".intercalate (Text.distinct (r.syntaxErrors.map (·.1))))

/-- A condition that can be decided: the severity is one of the four, and the limit can be compared
with numbers. -/
def Decided (g : Gate) : Condition → Prop
  | worst => ∀ name, g.failOn = some name → ∃ s : Severity, s.name = name
  | issues => ∀ limit, g.maxIssues = some limit → ∃ b, limit.isNegative = .ok b
  | count s => ∀ limit, g.limit s = some limit → ∃ b, limit.isNegative = .ok b
  | broken => True

/-- What a condition adds to the reasons of a gate. -/
def reasons (g : Gate) (r : ScanResult) : Condition → Except GateFault (List String)
  | worst => g.severityReason (r.findings.map (·.2))
  | issues => g.countReason (r.findings.map (·.2))
  | count s => g.limitReason (r.findings.map (·.2)) s
  | broken => .ok (g.brokenReason r)

/-! ### What comes of one condition -/

section Limits

variable {count : Nat} {limit : Setting} {texts : List String} {text : String}

/-- A step that adds a reason or none adds one at most. -/
theorem length_le_one_of_step {x : Except GateFault Bool}
    (h : (do if ← x then return [text] else return []) = .ok texts) : texts.length ≤ 1 := by
  obtain ⟨b, -, h⟩ := bind_eq_ok_iff.mp h
  split at h
  · exact (Except.ok.inj h) ▸ le_rfl
  · exact (Except.ok.inj h) ▸ Nat.zero_le 1

/-- A limit decides exactly if it is a number. -/
theorem succeeds_exceeds_iff :
    Succeeds (do if ← Gate.exceeds count limit then return [text] else return []) ↔
      ∃ b, limit.isNegative = .ok b := by
  constructor
  · rintro ⟨texts, h⟩
    obtain ⟨b, hb, -⟩ := bind_eq_ok_iff.mp h
    cases limit with
    | flag | int | real => exact ⟨_, rfl⟩
    | text | moment | list | table => cases hb
  · rintro ⟨b, hb⟩
    obtain ⟨below, hbelow⟩ := Setting.exists_isBelow hb count
    rw [Gate.exceeds, hbelow]
    exact succeeds_ite (succeeds_ok _) (succeeds_ok _)

end Limits

/-- Whether some finding is as bad as a rank, where all have a rank. -/
theorem reaches_eq_ok_true_iff (rank : Nat) {findings : List Finding}
    (hgraded : ∀ f ∈ findings, f.Graded) :
    Gate.reaches rank findings = .ok true ↔
      ∃ f ∈ findings, ∃ s : Severity, f.severity = s.name ∧ rank ≤ s.rank := by
  obtain ⟨b, hb⟩ := Gate.succeeds_reaches rank hgraded
  have hfalse := @Gate.reaches_eq_ok_false_iff findings rank
  rw [hb, Except.ok.injEq] at hfalse ⊢
  rw [← Bool.not_eq_false, hfalse]
  constructor
  · intro h
    push Not at h
    obtain ⟨f, hf, hlow⟩ := h
    obtain ⟨s, hs⟩ := Severity.isName_iff.mp (hgraded f hf)
    exact ⟨f, hf, s, hs.symm, hlow s hs⟩
  · rintro ⟨f, hf, s, hs, hle⟩ hall
    obtain ⟨s', hs', hlt⟩ := hall f hf
    obtain rfl := Severity.name_injective (hs'.trans hs)
    omega

theorem mem_severityReason {texts : List String} (hgraded : ∀ f ∈ r.findings.map (·.2), f.Graded)
    (h : g.severityReason (r.findings.map (·.2)) = .ok texts) (text : String) :
    text ∈ texts ↔ Fails g r .worst text := by
  unfold Gate.severityReason at h
  split at h
  · rename_i hnone
    obtain rfl := Except.ok.inj h
    refine iff_of_false (List.not_mem_nil) fun hfails => ?_
    cases hfails with
    | worst hname => exact absurd (hnone.symm.trans hname) (by simp)
  · rename_i name hname
    obtain ⟨rank, hrank, h⟩ := bind_eq_ok_iff.mp h
    obtain ⟨threshold, rfl, rfl⟩ := Gate.rankOf_eq_ok_iff.mp hrank
    obtain ⟨b, hb, h⟩ := bind_eq_ok_iff.mp h
    have hreaches := reaches_eq_ok_true_iff threshold.rank hgraded
    rw [hb, Except.ok.injEq] at hreaches
    cases b with
    | true =>
      obtain rfl := Except.ok.inj h
      obtain ⟨f, hf, s, hs, hle⟩ := hreaches.mp rfl
      rw [List.mem_singleton]
      constructor
      · rintro rfl
        exact .worst hname hf hs hle
      · intro hfails
        cases hfails with
        | worst hname' =>
          rw [Option.some.inj (hname.symm.trans hname')]
    | false =>
      obtain rfl := Except.ok.inj h
      refine iff_of_false (List.not_mem_nil) fun hfails => ?_
      cases hfails with
      | @worst threshold' s f hname' hf hs hle =>
        obtain rfl := Severity.name_injective (Option.some.inj (hname.symm.trans hname'))
        exact absurd (hreaches.mpr ⟨f, hf, s, hs, hle⟩) (by decide)

theorem mem_brokenReason (text : String) :
    text ∈ g.brokenReason r ↔ Fails g r .broken text := by
  by_cases hnil : g.brokenReason r = []
  · have hnone := Gate.brokenReason_eq_nil_iff.mp hnil
    rw [hnil]
    refine iff_of_false (List.not_mem_nil) fun hfails => ?_
    cases hfails with
    | broken hon hne => exact hne (hnone hon)
  · have hon : g.failOnBrokenSyntax = true ∧ r.syntaxErrors ≠ [] := by
      rw [Gate.brokenReason_eq_nil_iff] at hnil
      push Not at hnil
      exact hnil
    have htext : g.brokenReason r =
        ["Syntax errors in " ++ (Text.distinct (r.syntaxErrors.map (·.1))).length.repr ++
          " file(s): " ++ ", ".intercalate (Text.distinct (r.syntaxErrors.map (·.1)))] := by
      unfold Gate.brokenReason at hnil ⊢
      rw [if_pos hon.1] at hnil ⊢
      split at hnil
      · exact absurd rfl hnil
      · rfl
    rw [htext, List.mem_singleton]
    constructor
    · rintro rfl
      exact .broken hon.1 hon.2
    · intro hfails
      cases hfails
      rfl

/-- **What a condition adds**: its reason if it fails, and nothing otherwise. -/
theorem mem_reasons_iff {c : Condition} {texts : List String}
    (hgraded : ∀ f ∈ r.findings.map (·.2), f.Graded) (h : c.reasons g r = .ok texts)
    (text : String) : text ∈ texts ↔ Fails g r c text := by
  cases c with
  | worst => exact mem_severityReason hgraded h text
  | issues =>
    rw [Gate.mem_countReason h, List.length_map]
    constructor
    · rintro ⟨limit, hlimit, hbelow, rfl⟩
      exact .issues hlimit hbelow
    · intro hfails
      cases hfails with
      | issues hlimit hbelow => exact ⟨_, hlimit, hbelow, rfl⟩
  | count s =>
    rw [Gate.mem_limitReason h]
    constructor
    · rintro ⟨limit, hlimit, hbelow, rfl⟩
      exact .count hlimit hbelow
    · intro hfails
      cases hfails with
      | count hlimit hbelow => exact ⟨_, hlimit, hbelow, rfl⟩
  | broken =>
    obtain rfl := Except.ok.inj h
    exact mem_brokenReason text

/-- It is one reason at most. -/
theorem length_reasons_le_one {c : Condition} {texts : List String}
    (h : c.reasons g r = .ok texts) : texts.length ≤ 1 := by
  cases c with
  | worst =>
    simp only [reasons, Gate.severityReason] at h
    split at h
    · exact (Except.ok.inj h) ▸ Nat.zero_le 1
    · obtain ⟨rank, -, h⟩ := bind_eq_ok_iff.mp h
      exact length_le_one_of_step h
  | issues =>
    simp only [reasons, Gate.countReason] at h
    split at h
    · exact (Except.ok.inj h) ▸ Nat.zero_le 1
    · exact length_le_one_of_step h
  | count s =>
    simp only [reasons, Gate.limitReason] at h
    split at h
    · exact (Except.ok.inj h) ▸ Nat.zero_le 1
    · exact length_le_one_of_step h
  | broken =>
    obtain rfl := Except.ok.inj h
    unfold Gate.brokenReason
    split
    · split
      · exact Nat.zero_le 1
      · exact le_rfl
    · exact Nat.zero_le 1

/-- A condition comes to an answer exactly if it can be decided. -/
theorem succeeds_reasons_iff (c : Condition) (hgraded : ∀ f ∈ r.findings.map (·.2), f.Graded) :
    Succeeds (c.reasons g r) ↔ c.Decided g := by
  cases c with
  | worst =>
    constructor
    · rintro ⟨texts, h⟩ name hname
      simp only [reasons, Gate.severityReason, hname] at h
      obtain ⟨rank, hrank, -⟩ := bind_eq_ok_iff.mp h
      obtain ⟨s, hs, -⟩ := Gate.rankOf_eq_ok_iff.mp hrank
      exact ⟨s, hs⟩
    · intro h
      refine Gate.succeeds_severityReason (fun name hname => ?_) hgraded
      exact Severity.isName_iff.mpr (h name hname)
  | issues =>
    simp only [reasons, Gate.countReason, Decided]
    cases g.maxIssues with
    | none => simpa using succeeds_ok []
    | some limit => simpa using succeeds_exceeds_iff
  | count s =>
    simp only [reasons, Gate.limitReason, Decided]
    cases g.limit s with
    | none => simpa using succeeds_ok []
    | some limit => simpa using succeeds_exceeds_iff
  | broken => exact iff_of_true (succeeds_ok _) trivial

/-- **A condition does not see the arrangement of a result.** -/
theorem reasons_congr (hgraded : ∀ f ∈ r.findings.map (·.2), f.Graded) (h : r.Alike r')
    (c : Condition) : c.reasons g r' = c.reasons g r := by
  cases c with
  | worst =>
    have hgraded' : ∀ f ∈ r'.findings.map (·.2), f.Graded :=
      fun f hf => hgraded f (h.findings.mem_iff.mpr hf)
    have hreaches (rank : Nat) : Gate.reaches rank (r'.findings.map (·.2)) =
        Gate.reaches rank (r.findings.map (·.2)) := by
      obtain ⟨b, hb⟩ := Gate.succeeds_reaches rank hgraded
      obtain ⟨b', hb'⟩ := Gate.succeeds_reaches rank hgraded'
      have hiff := reaches_eq_ok_true_iff rank hgraded
      have hiff' := reaches_eq_ok_true_iff rank hgraded'
      simp only [hb, hb', h.findings.mem_iff, Except.ok.injEq] at hiff hiff' ⊢
      exact Bool.eq_iff_iff.mpr (hiff'.trans hiff.symm)
    simp only [reasons, Gate.severityReason, hreaches]
  | issues => simp only [reasons, Gate.countReason, h.findings.length_eq]
  | count s =>
    have hcount : s.count (r'.findings.map (·.2)) = s.count (r.findings.map (·.2)) :=
      h.findings.symm.countP_eq _
    simp only [reasons, Gate.limitReason, hcount]
  | broken => simp only [reasons, Gate.brokenReason, Text.distinct_congr h.broken]

end Condition

/-! ## The verdict -/

namespace Gate

variable {g : Gate} {r r' : ScanResult}

/-- The verdict on a result: whether it passes, and the reasons why not. -/
def verdict (g : Gate) (r : ScanResult) : Except GateFault (Bool × List String) :=
  (g.reasons r).map fun reasons => (reasons.isEmpty, reasons)

theorem verdict_eq_ok_iff {passed : Bool} {reasons : List String} :
    g.verdict r = .ok (passed, reasons) ↔ g.reasons r = .ok reasons ∧ reasons.isEmpty = passed := by
  rw [verdict]
  cases g.reasons r with
  | error fault => simp [Except.map]
  | ok reasons' =>
    simp only [Except.map, Except.ok.injEq, Prod.mk.injEq]
    constructor
    · rintro ⟨hpassed, rfl⟩
      exact ⟨rfl, hpassed⟩
    · rintro ⟨rfl, hpassed⟩
      exact ⟨hpassed, rfl⟩

/-- **A gate goes through its conditions** in their order. -/
theorem reasons_eq_mapM (g : Gate) (r : ScanResult) :
    g.reasons r = List.flatten <$> Condition.all.mapM (Condition.reasons g r) := by
  have hbroken : Condition.reasons g r .broken = pure (g.brokenReason r) := rfl
  simp only [Condition.all, List.mapM_cons, List.mapM_nil, hbroken, map_bind, map_pure, bind_assoc,
    pure_bind, List.flatten_cons, List.flatten_nil, List.append_nil]
  simp only [reasons, Condition.reasons, List.append_assoc]

theorem reasons_eq_ok_iff {reasons : List String} :
    g.reasons r = .ok reasons ↔ ∃ parts,
      List.Forall₂ (fun c texts => Condition.reasons g r c = .ok texts) Condition.all parts ∧
        parts.flatten = reasons := by
  rw [reasons_eq_mapM]
  simp only [← mapM_eq_ok_iff]
  cases Condition.all.mapM (Condition.reasons g r) with
  | error fault => simp
  | ok parts => simp

/-- The conditions that fail, with their reasons, among some that are asked for in turn. -/
theorem exists_failed {cs : List Condition} {parts : List (List String)}
    (hgraded : ∀ f ∈ r.findings.map (·.2), f.Graded)
    (h : List.Forall₂ (fun c texts => Condition.reasons g r c = .ok texts) cs parts) :
    ∃ failed : List (Condition × String), (failed.map (·.1)).Sublist cs ∧
      (∀ c text, (c, text) ∈ failed ↔ c ∈ cs ∧ c.Fails g r text) ∧
      failed.map (·.2) = parts.flatten := by
  induction h with
  | nil => exact ⟨[], .slnil, by simp, rfl⟩
  | @cons c texts cs parts hc _ ih =>
    obtain ⟨failed, hsub, hmem, hparts⟩ := ih
    have htexts := Condition.mem_reasons_iff hgraded hc
    have hlength := Condition.length_reasons_le_one hc
    cases texts with
    | nil =>
      refine ⟨failed, hsub.cons c, fun c' text => ?_, by simpa using hparts⟩
      rw [hmem, List.mem_cons]
      grind
    | cons reason rest =>
      obtain rfl : rest = [] := by simpa using hlength
      refine ⟨(c, reason) :: failed, hsub.cons_cons c, fun c' text => ?_, by simpa using hparts⟩
      rw [List.mem_cons, hmem, List.mem_cons]
      grind

/-- A gate decides exactly if each of its conditions does. -/
theorem succeeds_reasons_iff (hgraded : ∀ f ∈ r.findings.map (·.2), f.Graded) :
    Succeeds (g.reasons r) ↔ ∀ c, Condition.Decided g c := by
  constructor
  · rintro ⟨reasons, h⟩ c
    obtain ⟨parts, hparts, -⟩ := reasons_eq_ok_iff.mp h
    obtain ⟨texts, -, htexts⟩ := exists_mem_of_forall₂ hparts c (Condition.mem_all c)
    exact (Condition.succeeds_reasons_iff c hgraded).mp ⟨texts, htexts⟩
  · intro h
    have hsome (c : Condition) := (Condition.succeeds_reasons_iff c hgraded).mpr (h c)
    choose texts htexts using hsome
    refine ⟨(Condition.all.map texts).flatten, reasons_eq_ok_iff.mpr ⟨_, ?_, rfl⟩⟩
    exact List.forall₂_map_right_iff.mpr (List.forall₂_same.mpr fun c _ => htexts c)

/-- **The verdict does not see the arrangement of a result.** However files and findings are
ordered, whichever file a finding is told of and however often an error is, the verdict on a result
with the four severities is the same, and it comes to the same fault where the gate cannot decide. A
gate decides if its severity is one of the four and its limits are numbers. The result then passes
exactly if there is no reason against it, and the reasons are those of the conditions that fail: one
for each, in the order of the conditions. -/
theorem verdict_of_rearranged
    (hknown : ∀ x ∈ r.files, ∀ f ∈ x.findings, ∃ s : Severity, s.name = f.severity)
    (h : r.Rearranged r') (g : Gate) :
    g.verdict r' = g.verdict r ∧
    ((∃ passed reasons, g.verdict r = .ok (passed, reasons)) ↔ ∀ c, Condition.Decided g c) ∧
    ∀ passed reasons, g.verdict r = .ok (passed, reasons) →
      (passed = true ↔ reasons = []) ∧
      ∃ failed : List (Condition × String), (failed.map (·.1)).Sublist Condition.all ∧
        (∀ c text, (c, text) ∈ failed ↔ c.Fails g r text) ∧ failed.map (·.2) = reasons := by
  have hgraded : ∀ f ∈ r.findings.map (·.2), f.Graded :=
    r.forall_findings_iff.mpr fun x hx f hf => Severity.isName_iff.mpr (hknown x hx f hf)
  refine ⟨?_, ?_, ?_⟩
  · have hsame : Condition.reasons g r' = Condition.reasons g r :=
      funext (Condition.reasons_congr hgraded h.alike)
    rw [verdict, verdict, reasons_eq_mapM, reasons_eq_mapM, hsame]
  · rw [← succeeds_reasons_iff hgraded]
    constructor
    · rintro ⟨passed, reasons, hverdict⟩
      exact ⟨reasons, (verdict_eq_ok_iff.mp hverdict).1⟩
    · rintro ⟨reasons, hreasons⟩
      exact ⟨_, reasons, verdict_eq_ok_iff.mpr ⟨hreasons, rfl⟩⟩
  · intro passed reasons hverdict
    obtain ⟨hreasons, rfl⟩ := verdict_eq_ok_iff.mp hverdict
    obtain ⟨parts, hparts, rfl⟩ := reasons_eq_ok_iff.mp hreasons
    obtain ⟨failed, hsub, hmem, hfailed⟩ := exists_failed hgraded hparts
    refine ⟨List.isEmpty_iff, failed, hsub, fun c text => ?_, hfailed⟩
    rw [hmem, and_iff_right (Condition.mem_all c)]

/-- Findings in two files, and the first of them is broken. -/
def scattered : ScanResult :=
  ⟨[graded "b.js" [.low, .high] true, graded "a.js" [.medium] false], 2⟩

/-- The same findings, the worst of them now told of the other file, which comes first, and the
error is told twice. -/
def gathered : ScanResult :=
  ⟨[graded "a.js" [.high, .medium] false,
    { graded "b.js" [.low] true with
      validation := some ⟨false, [⟨.unknown, "", "", ""⟩, ⟨.unknown, "", "", ""⟩]⟩ }], 2⟩

/-- A gate that neither passes. -/
def severeGate : Gate :=
  { Gate.none with
    failOn := some "High", maxIssues := some (.int 2), maxLow := some (.flag false)
    failOnBrokenSyntax := true }

theorem rearranged_gathered : scattered.Rearranged gathered := by
  -- one move after the other: the finding, the error, the files
  have hmoved : scattered.Move
      ⟨[graded "b.js" [.low] true, graded "a.js" [.high, .medium] false], 2⟩ :=
    @ScanResult.Move.moved [] [] [] (graded "b.js" [.low, .high] true)
      (graded "a.js" [.medium] false) (graded "b.js" [.low] true).findings [] []
      (graded "a.js" [.medium] false).findings _ 2 rfl rfl
  have hrepeated : ScanResult.Move
      ⟨[graded "b.js" [.low] true, graded "a.js" [.high, .medium] false], 2⟩
      ⟨gathered.files.reverse, 2⟩ :=
    @ScanResult.Move.repeated [] [graded "a.js" [.high, .medium] false] (graded "b.js" [.low] true)
      _ [] [⟨.unknown, "", "", ""⟩] ⟨.unknown, "", "", ""⟩ 2 rfl rfl (by decide)
  have hfiles : ScanResult.Move ⟨gathered.files.reverse, 2⟩ gathered :=
    .files (List.reverse_perm _)
  exact .trans _ _ _ (.rel _ _ hmoved) (.trans _ _ _ (.rel _ _ hrepeated) (.rel _ _ hfiles))

/-- Both arrangements fail for the same four reasons. -/
theorem verdict_of_gathered :
    (∀ x ∈ scattered.files, ∀ f ∈ x.findings, ∃ s : Severity, s.name = f.severity) ∧
      scattered.Rearranged gathered ∧ severeGate.verdict gathered = severeGate.verdict scattered ∧
      severeGate.verdict gathered = .ok (false,
        ["Detected finding severity >= 'High'", "Finding count 3 exceeds max_issues=2",
          "Low finding count 1 exceeds max_low=False", "Syntax errors in 1 file(s): b.js"]) := by
  have hknown : ∀ x ∈ scattered.files, ∀ f ∈ x.findings, ∃ s : Severity, s.name = f.severity := by
    have hnames : ∀ x ∈ scattered.files, ∀ f ∈ x.findings, Severity.IsName f.severity := by decide
    exact fun x hx f hf => Severity.isName_iff.mp (hnames x hx f hf)
  obtain ⟨hsame, -, -⟩ := verdict_of_rearranged hknown rearranged_gathered severeGate
  exact ⟨hknown, rearranged_gathered, hsame, by cbv⟩

end Gate

end Advisor
