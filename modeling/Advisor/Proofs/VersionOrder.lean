import Advisor.Proofs.DeclaredPackages
import Advisor.Proofs.VersionReader

/-!
# The two orders of versions

In both schemes a version is never below itself, and what is below something that is below a third
is below the third. The lexical order leaves no two texts undecided. The semantic order knows
nothing of texts that are no versions, and of two versions it leaves those undecided that are the
same but for zeros at the end of the release (`Version.Same`): what it compares, the key of a
version, tells all others apart (`key_eq_iff`). So versions that are left undecided behave alike
towards all others. Since a manifest is reported for versions below the one that mends them, it is
reported for all versions below a reported one: `versions_strictly_ordered`.
-/

namespace Advisor

namespace Version

/-! ## Releases -/

/-- A zero counts only if something follows that does. -/
theorem dropTrailingZeros_cons (n : Nat) (ns : List Nat) :
    dropTrailingZeros (n :: ns) =
      if n = 0 ∧ dropTrailingZeros ns = [] then [] else n :: dropTrailingZeros ns := by
  have hlast : ∀ ms : List Nat, (ms ++ [n]).dropWhile (· == 0) =
      if n = 0 ∧ ms.dropWhile (· == 0) = [] then [] else ms.dropWhile (· == 0) ++ [n] := by
    intro ms
    rw [List.dropWhile_append]
    by_cases hms : ms.dropWhile (· == 0) = []
    · by_cases hn : n = 0 <;> simp [hms, hn]
    · rw [if_neg (by simpa using hms), if_neg fun h => hms h.2]
  rw [dropTrailingZeros, dropTrailingZeros, List.reverse_cons, hlast]
  split
  · rename_i h
    rw [if_pos ⟨h.1, by rw [h.2]; rfl⟩]
    rfl
  · rename_i h
    rw [if_neg fun h' => h ⟨h'.1, List.reverse_eq_nil_iff.mp h'.2⟩, List.reverse_append]
    rfl

theorem dropTrailingZeros_eq_nil_iff {ns : List Nat} :
    dropTrailingZeros ns = [] ↔ ∀ i, ns.getD i 0 = 0 := by
  induction ns with
  | nil => exact iff_of_true rfl fun i => rfl
  | cons n ns ih =>
    rw [dropTrailingZeros_cons]
    constructor
    · intro h
      by_cases hzero : n = 0 ∧ dropTrailingZeros ns = []
      · rintro (_ | i)
        · exact hzero.1
        · exact ih.mp hzero.2 i
      · rw [if_neg hzero] at h
        cases h
    · intro h
      exact if_pos ⟨h 0, ih.mpr fun i => h (i + 1)⟩

/-- Zeros at the end are not seen. -/
theorem dropTrailingZeros_eq_iff {ns ms : List Nat} :
    dropTrailingZeros ns = dropTrailingZeros ms ↔ ∀ i, ns.getD i 0 = ms.getD i 0 := by
  induction ns generalizing ms with
  | nil =>
    have hnil : dropTrailingZeros [] = [] := rfl
    rw [hnil, eq_comm, dropTrailingZeros_eq_nil_iff]
    exact forall_congr' fun i => eq_comm
  | cons n ns ih =>
    cases ms with
    | nil =>
      have hnil : dropTrailingZeros [] = [] := rfl
      rw [hnil, dropTrailingZeros_eq_nil_iff]
      exact Iff.rfl
    | cons m ms =>
      have hsplit : (∀ i, (n :: ns).getD i 0 = (m :: ms).getD i 0) ↔
          n = m ∧ ∀ i, ns.getD i 0 = ms.getD i 0 := by
        constructor
        · intro h
          exact ⟨h 0, fun i => h (i + 1)⟩
        · rintro ⟨h, hrest⟩ (_ | i)
          · exact h
          · exact hrest i
      rw [hsplit, ← ih, dropTrailingZeros_cons, dropTrailingZeros_cons]
      split <;> split <;> grind

/-! ## Keys -/

/-- **The same version**, perhaps with another number of zeros at the end of the release. -/
structure Same (v w : Version) : Prop where
  epoch : v.epoch = w.epoch
  release : ∀ i, v.release.getD i 0 = w.release.getD i 0
  pre : v.pre = w.pre
  post : v.post = w.post
  dev : v.dev = w.dev
  locals : v.locals = w.locals

theorem rank_injective : Function.Injective Stage.rank := by
  intro s t h
  cases s <;> cases t <;> first | rfl | cases h

theorem localKey_injective : Function.Injective localKey := by
  intro p q h
  cases p with
  | number n =>
    cases q with
    | number m =>
      cases h
      rfl
    | word letters => cases h
  | word letters =>
    cases q with
    | number m => cases h
    | word letters' =>
      have hletters : letters.map Char.toNat = letters'.map Char.toNat := List.tail_eq_of_cons_eq h
      rw [List.map_injective_iff.mpr (fun a b hab => Char.toNat_inj.mp hab) hletters]

theorem preKey_of_some {v : Version} {stage : Stage} {n : Nat} (h : v.pre = some (stage, n)) :
    v.preKey = [stage.rank, n] := by
  rw [preKey, h]

theorem length_preKey_of_none {v : Version} (h : v.pre = none) : v.preKey.length = 1 := by
  rw [preKey, h]
  cases v.post <;> cases v.dev <;> rfl

/-- A stage is never taken for a release, nor for a development release. -/
theorem pre_eq_of_preKey {v w : Version} (h : v.preKey = w.preKey) : v.pre = w.pre := by
  rcases hv : v.pre with _ | ⟨s, n⟩ <;> rcases hw : w.pre with _ | ⟨t, m⟩
  · rfl
  · have hlength := length_preKey_of_none hv
    rw [h, preKey_of_some hw] at hlength
    cases hlength
  · have hlength := length_preKey_of_none hw
    rw [← h, preKey_of_some hv] at hlength
    cases hlength
  · rw [preKey_of_some hv, preKey_of_some hw] at h
    injection h with hrank hn
    injection hn with hn
    rw [rank_injective hrank, hn]

theorem post_eq_of_postKey {v w : Version} (h : v.postKey = w.postKey) : v.post = w.post := by
  rw [postKey, postKey] at h
  cases hv : v.post <;> cases hw : w.post <;> simp_all

theorem dev_eq_of_devKey {v w : Version} (h : v.devKey = w.devKey) : v.dev = w.dev := by
  rw [devKey, devKey] at h
  cases hv : v.dev <;> cases hw : w.dev <;> simp_all

/-- **A key tells a version** but for the zeros at the end of its release. -/
theorem key_eq_iff {v w : Version} : v.key = w.key ↔ Same v w := by
  simp only [key, List.cons.injEq, and_true]
  constructor
  · rintro ⟨hepoch, hrelease, hpre, hpost, hdev, hlocals⟩
    exact ⟨hepoch, dropTrailingZeros_eq_iff.mp hrelease, pre_eq_of_preKey hpre,
      post_eq_of_postKey hpost, dev_eq_of_devKey hdev,
      List.map_injective_iff.mpr localKey_injective hlocals⟩
  · intro h
    refine ⟨h.epoch, dropTrailingZeros_eq_iff.mpr h.release, ?_, ?_, ?_, by rw [h.locals]⟩
    · rw [preKey, preKey, h.pre, h.post, h.dev]
    · rw [postKey, postKey, h.post]
    · rw [devKey, devKey, h.dev]

/-! ## Comparisons -/

theorem compareTexts_lexical (a b : String) :
    compareTexts a b .lexical = if a < b then .below else .notBelow := by
  simp only [compareTexts, decide_eq_true_eq]

theorem compareTexts_lexical_iff {a b : String} : compareTexts a b .lexical = .below ↔ a < b := by
  rw [compareTexts_lexical]
  by_cases h : a < b <;> simp [h]

/-- Versions that can be read are compared by their keys. -/
theorem compareTexts_of_read {a b : String} {v w : Version} (ha : read a = .ok v)
    (hb : read b = .ok w) :
    compareTexts a b .semantic = if v.key < w.key then .below else .notBelow := by
  simp only [compareTexts, ha, hb, precedes, decide_eq_true_eq]

theorem compareTexts_semantic_iff {a b : String} :
    compareTexts a b .semantic = .below ↔
      ∃ v w, read a = .ok v ∧ read b = .ok w ∧ v.key < w.key := by
  constructor
  · intro h
    cases ha : read a with
    | error e => cases e <;> simp [compareTexts, ha] at h
    | ok v =>
      cases hb : read b with
      | error e => cases e <;> simp [compareTexts, ha, hb] at h
      | ok w =>
        rw [compareTexts_of_read ha hb] at h
        refine ⟨v, w, rfl, rfl, ?_⟩
        by_contra hlt
        rw [if_neg hlt] at h
        cases h
  · rintro ⟨v, w, ha, hb, hlt⟩
    rw [compareTexts_of_read ha hb, if_pos hlt]

/-- What is no version cannot be read, and nothing else is called malformed. -/
theorem read_eq_malformed_iff {text : String} :
    read text = .error .malformed ↔ pieces? text = none := by
  cases h : pieces? text with
  | none => simp [read, h]
  | some p =>
    refine iff_of_false ?_ (by simp)
    intro hread
    rcases stops_read h with ⟨-, hstop⟩ | ⟨-, v, hv⟩
    · rw [hread] at hstop
      cases hstop
    · rw [hread] at hv
      cases hv

/-- A version can be read if a comparison with it comes to an end. -/
theorem exists_read_of_compareTexts {a b : String} {v : Version} (ha : read a = .ok v)
    (hversion : pieces? b ≠ none) (hends : compareTexts a b .semantic ≠ .numberTooLong) :
    ∃ w, read b = .ok w := by
  cases hb : read b with
  | ok w => exact ⟨w, rfl⟩
  | error e =>
    cases e with
    | malformed => exact absurd (read_eq_malformed_iff.mp hb) hversion
    | numberTooLong => simp [compareTexts, ha, hb] at hends

section Order

variable {scheme : VersionScheme} {a b c : String}

theorem compareTexts_self_ne (scheme : VersionScheme) (a : String) :
    compareTexts a a scheme ≠ .below := by
  cases scheme with
  | lexical =>
    rw [ne_eq, compareTexts_lexical_iff]
    exact lt_irrefl a
  | semantic =>
    rw [ne_eq, compareTexts_semantic_iff]
    rintro ⟨v, w, hv, hw, hlt⟩
    rw [hv] at hw
    cases hw
    exact lt_irrefl _ hlt

theorem compareTexts_asymm (h : compareTexts a b scheme = .below) :
    compareTexts b a scheme = .notBelow := by
  cases scheme with
  | lexical =>
    rw [compareTexts_lexical_iff] at h
    rw [compareTexts_lexical, if_neg h.asymm]
  | semantic =>
    obtain ⟨v, w, hv, hw, hlt⟩ := compareTexts_semantic_iff.mp h
    rw [compareTexts_of_read hw hv, if_neg hlt.asymm]

theorem compareTexts_trans (hab : compareTexts a b scheme = .below)
    (hbc : compareTexts b c scheme = .below) : compareTexts a c scheme = .below := by
  cases scheme with
  | lexical =>
    rw [compareTexts_lexical_iff] at hab hbc ⊢
    exact hab.trans hbc
  | semantic =>
    obtain ⟨v, w, hv, hw, hvw⟩ := compareTexts_semantic_iff.mp hab
    obtain ⟨w', x, hw', hx, hwx⟩ := compareTexts_semantic_iff.mp hbc
    rw [hw] at hw'
    cases hw'
    exact compareTexts_semantic_iff.mpr ⟨v, x, hv, hx, hvw.trans hwx⟩

theorem compareTexts_lexical_total (h : a ≠ b) :
    compareTexts a b .lexical = .below ∨ compareTexts b a .lexical = .below := by
  rw [compareTexts_lexical_iff, compareTexts_lexical_iff]
  exact lt_or_gt_of_ne h

/-- What is no version is below nothing and above nothing. -/
theorem compareTexts_of_pieces?_eq_none (h : pieces? a = none) (b : String) :
    compareTexts a b .semantic ≠ .below ∧ compareTexts b a .semantic ≠ .below := by
  have hread := read_eq_malformed_iff.mpr h
  constructor
  · rw [ne_eq, compareTexts_semantic_iff]
    rintro ⟨v, w, hv, -⟩
    rw [hread] at hv
    cases hv
  · rw [ne_eq, compareTexts_semantic_iff]
    rintro ⟨v, w, -, hw, -⟩
    rw [hread] at hw
    cases hw

/-- **A version between two others** is above the lower or below the upper one. -/
theorem compareTexts_between {v : Version} (hb : read b = .ok v)
    (hac : compareTexts a c .semantic = .below) :
    compareTexts a b .semantic = .below ∨ compareTexts b c .semantic = .below := by
  obtain ⟨u, w, hu, hw, huw⟩ := compareTexts_semantic_iff.mp hac
  rcases lt_or_ge u.key v.key with huv | hvu
  · exact .inl (compareTexts_semantic_iff.mpr ⟨u, v, hu, hb, huv⟩)
  · exact .inr (compareTexts_semantic_iff.mpr ⟨v, w, hb, hw, hvu.trans_lt huw⟩)

/-- **Versions that are left undecided** are the same. -/
theorem same_iff {v w : Version} (ha : read a = .ok v) (hb : read b = .ok w) :
    Same v w ↔
      compareTexts a b .semantic = .notBelow ∧ compareTexts b a .semantic = .notBelow := by
  rw [← key_eq_iff, compareTexts_of_read ha hb, compareTexts_of_read hb ha]
  rcases lt_trichotomy v.key w.key with h | h | h
  · simp [h, h.ne]
  · simp [h]
  · simp [h, h.ne']

end Order

end Version

/-! ## Manifests -/

namespace Manifest

open Version

variable {scheme : VersionScheme} {content kind : String} {nesting : Nat}

/-- **A package is reported in a version** when the content of a file is checked. -/
def Reported (content kind : String) (scheme : VersionScheme) (nesting : Nat) (a : Advisory)
    (version : String) : Prop :=
  ∃ outcome, (check (some content) kind scheme nesting).1 = .ok outcome ∧
    report a version ∈ outcome.findings

/-- A report tells its package and the version. -/
theorem report_injective {a b : Advisory} {version version' : String} (ha : a ∈ advisories)
    (hb : b ∈ advisories) (h : report a version = report b version') :
    a = b ∧ version = version' := by
  have hdescription := congrArg (fun f : Finding => f.description.toList) h
  simp only [report, String.toList_append, List.append_assoc, List.append_cancel_left_eq]
    at hdescription
  -- the packages differ in their first letters
  have hfirst : ∀ a ∈ advisories, ∀ b ∈ advisories,
      a.package.toList.head? = b.package.toList.head? → a.package = b.package := by decide
  have hhead : ∀ a ∈ advisories, ∀ rest,
      (a.package.toList ++ rest).head? = a.package.toList.head? := by
    have hnil : ∀ a ∈ advisories, a.package.toList ≠ [] := by decide
    exact fun a ha rest => List.head?_append_of_ne_nil _ (hnil a ha)
  have hheads := congrArg List.head? hdescription
  rw [hhead a ha, hhead b hb] at hheads
  have hfind := find?_advisories_iff.mpr ⟨ha, hfirst a ha b hb hheads⟩
  rw [find?_advisories_iff.mpr ⟨hb, rfl⟩] at hfind
  cases hfind
  refine ⟨rfl, ?_⟩
  simpa [String.toList_inj] using hdescription

/-- What is reported is below the version that mends it. -/
theorem below_of_reported {a : Advisory} {version : String} (ha : a ∈ advisories)
    (h : Reported content kind scheme nesting a version) :
    compareTexts (bareVersion version) a.fixedIn scheme = .below := by
  obtain ⟨outcome, hcheck, hmem⟩ := h
  obtain ⟨d, hd⟩ := exists_finding?_of_mem_findings hcheck _ hmem
  rw [finding?_eq_map] at hd
  obtain ⟨⟨b, version'⟩, hfaulted, hreport⟩ := Option.map_eq_some_iff.mp hd
  obtain ⟨hb, -, hbelow⟩ := faulted?_eq_some_iff.mp hfaulted
  obtain ⟨rfl, rfl⟩ := report_injective hb ha hreport
  exact hbelow

theorem isManifestKind_of_reported {a : Advisory} {version : String}
    (h : Reported content kind scheme nesting a version) : isManifestKind kind = true := by
  obtain ⟨outcome, hcheck, hmem⟩ := h
  by_contra hkind
  rw [check, if_neg hkind] at hcheck
  cases hcheck
  cases hmem

/-- A version below the one that mends it is reported, unless another package breaks the check
off. -/
theorem reported_of_below {members : List (String × Json)} {a : Advisory} {version : String}
    (hkind : isManifestKind kind = true) (hread : Json.read nesting content = .ok (.object members))
    (ha : a ∈ advisories) (hdeclared : effective? members a.package = some (.str version))
    (hbelow : compareTexts (bareVersion version) a.fixedIn scheme = .below)
    (hothers : ∀ d ∈ declared members, d.1 ≠ a.package → ¬ BreaksPass scheme d) :
    Reported content kind scheme nesting a version := by
  have hnamed := Json.wellNamed_of_read hread
  have hpass : ∀ d ∈ declared members, ¬ BreaksPass scheme d := by
    intro d hd hbreak
    by_cases hpackage : d.1 = a.package
    · -- the package itself is compared with success
      obtain ⟨b, hfind, hlong⟩ := hbreak
      obtain ⟨package, declaredAs⟩ := d
      obtain rfl : package = a.package := hpackage
      have hsame := (mem_declared_iff hnamed).mp hd
      rw [hdeclared] at hsame
      cases hsame
      rw [find?_advisories_iff.mpr ⟨ha, rfl⟩] at hfind
      cases hfind
      rw [hbelow] at hlong
      cases hlong
    · exact hothers d hd hpackage hbreak
  have hfaulted : faulted? scheme (a.package, version) = some (a, version) :=
    faulted?_eq_some_iff.mpr ⟨ha, rfl, hbelow⟩
  refine ⟨.applicable (((declared members).filterMap (faulted? scheme)).map fun x =>
    report x.1 x.2), ?_, ?_⟩
  · simp only [check, hkind, if_true, Option.map_some, hread, checkDeclared_of_faulted hpass]
    rfl
  · have hmem := (mem_declared_iff hnamed).mpr hdeclared
    exact List.mem_map.mpr ⟨(a, version), List.mem_filterMap.mpr ⟨_, hmem, hfaulted⟩, rfl⟩

end Manifest

open Version Manifest

/-- **Versions are strictly ordered in both schemes.** No text is below itself, of two texts at most
one is below the other, and being below goes on from the second to a third. Of two different texts
one is below the other in the lexical order. In the semantic order a text that is no version is
below nothing and above nothing; of two versions that can be read, neither is below the other
exactly if they are the same but for zeros at the end of the release, and a third version is above
the lower or below the upper of two, if its comparison comes to an end. So what is reported of a
manifest is reported of every manifest that declares the package in a version below the reported
one, provided that no other package breaks the check off. -/
theorem versions_strictly_ordered (scheme : VersionScheme) :
    (∀ a, compareTexts a a scheme ≠ .below) ∧
    (∀ a b, compareTexts a b scheme = .below → compareTexts b a scheme = .notBelow) ∧
    (∀ a b c, compareTexts a b scheme = .below → compareTexts b c scheme = .below →
      compareTexts a c scheme = .below) ∧
    (∀ a b, a ≠ b → compareTexts a b .lexical = .below ∨ compareTexts b a .lexical = .below) ∧
    (∀ a, pieces? a = none → ∀ b,
      compareTexts a b .semantic ≠ .below ∧ compareTexts b a .semantic ≠ .below) ∧
    (∀ a b v w, read a = .ok v → read b = .ok w → (Same v w ↔
      compareTexts a b .semantic = .notBelow ∧ compareTexts b a .semantic = .notBelow)) ∧
    (∀ a b c, compareTexts a c .semantic = .below → pieces? b ≠ none →
      compareTexts a b .semantic ≠ .numberTooLong →
      compareTexts a b .semantic = .below ∨ compareTexts b c .semantic = .below) ∧
    (∀ content kind nesting a version, a ∈ advisories →
      Reported content kind scheme nesting a version →
      ∀ content' nesting' members version', Json.read nesting' content' = .ok (.object members) →
      effective? members a.package = some (.str version') →
      compareTexts (bareVersion version') (bareVersion version) scheme = .below →
      (∀ d ∈ declared members, d.1 ≠ a.package → ¬ BreaksPass scheme d) →
      Reported content' kind scheme nesting' a version') := by
  refine ⟨compareTexts_self_ne scheme, fun a b => compareTexts_asymm,
    fun a b c => compareTexts_trans, fun a b => compareTexts_lexical_total,
    fun a => compareTexts_of_pieces?_eq_none, fun a b v w => same_iff, ?_, ?_⟩
  · intro a b c hac hversion hends
    obtain ⟨v, -, hv, -⟩ := compareTexts_semantic_iff.mp hac
    obtain ⟨w, hw⟩ := exists_read_of_compareTexts hv hversion hends
    exact compareTexts_between hw hac
  · intro content kind nesting a version ha hreported content' nesting' members version' hread
      hdeclared hbelow hothers
    exact reported_of_below (isManifestKind_of_reported hreported) hread ha hdeclared
      (compareTexts_trans hbelow (below_of_reported ha hreported)) hothers

/-- A manifest that declares a candidate for a release, and one that declares a development release
before it. -/
def candidateManifest : String := "\x7b\"dependencies\":\x7b\"express\":\"4.17rc1\"\x7d\x7d"

def developmentManifest : String :=
  "\x7b\"devDependencies\":\x7b\"express\":\"^v4.17.0.dev3\"\x7d\x7d"

/-- A development release is below the candidate, and the candidate below the release. So the first
is reported as the second is, though it has one more zero and a sign for ranges. -/
theorem development_release_reported :
    advisories[0] ∈ advisories ∧
      Reported candidateManifest "json" .semantic Machine.usual.manifestNesting advisories[0]
        "4.17rc1" ∧
      compareTexts "v4.17.0.dev3" "4.17rc1" .semantic = .below ∧
      compareTexts "4.17rc1" "4.17" .semantic = .below ∧
      compareTexts "v4.17.0.dev3" "4.17" .semantic = .below ∧
      Reported developmentManifest "json" .semantic Machine.usual.manifestNesting advisories[0]
        "^v4.17.0.dev3" := by
  obtain ⟨-, -, htrans, -, -, -, -, hreported⟩ := versions_strictly_ordered .semantic
  have hmem : advisories[0] ∈ advisories := List.getElem_mem _
  have hlower : compareTexts "v4.17.0.dev3" "4.17rc1" .semantic = .below := by decide
  have hupper : compareTexts "4.17rc1" "4.17" .semantic = .below := by decide
  have hcandidate : Json.read Machine.usual.manifestNesting candidateManifest =
      .ok (.object [("dependencies", .object [("express", .str "4.17rc1")])]) := by cbv
  have hdevelopment : Json.read Machine.usual.manifestNesting developmentManifest =
      .ok (.object [("devDependencies", .object [("express", .str "^v4.17.0.dev3")])]) := by cbv
  -- each of them declares nothing else
  have hothers : ∀ version, ∀ d ∈ [("express", version)], d.1 ≠ advisories[0].package →
      ¬ BreaksPass .semantic d := by
    intro version d hd hne
    exact absurd (congrArg Prod.fst (List.mem_singleton.mp hd)) hne
  have hfirst : Reported candidateManifest "json" .semantic Machine.usual.manifestNesting
      advisories[0] "4.17rc1" :=
    reported_of_below rfl hcandidate hmem rfl (by decide) (hothers "4.17rc1")
  exact ⟨hmem, hfirst, hlower, hupper, htrans _ _ _ hlower hupper,
    hreported _ _ _ _ _ hmem hfirst _ _ _ _ hdevelopment rfl hlower (hothers "^v4.17.0.dev3")⟩

end Advisor
