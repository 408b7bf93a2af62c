import Advisor.Proofs.FileScan
import Advisor.Proofs.Json.Nesting
import Advisor.Proofs.VersionReader

/-!
# What breaks a check or a scan off

The check of a manifest breaks off for two reasons only: its text is nested too deep, or in the
semantic order a package that is looked up is declared in a version with a number that is too long.
`BreaksOff` says so in terms of the text, and `breaks_off_iff` that nothing else does it, for a
check as well as for a scan of files. Both reasons do occur.
-/

namespace Advisor

namespace Manifest

variable {content kind : String} {scheme : VersionScheme} {nesting : Nat}

/-- **What breaks the check of a text off**, where there is room for so much nesting. -/
inductive BreaksOff (content kind : String) (scheme : VersionScheme) (nesting : Nat) :
    ManifestFault → Prop
  /-- More brackets stand open inside of each other than there is room for. -/
  | nestedTooDeep : isManifestKind kind = true →
      Json.Opens (nesting + 1) (Json.skipSpace content.toList) →
      BreaksOff content kind scheme nesting .nestedTooDeep
  /-- A package with a known vulnerability is declared in a version with a number that is not
  read. -/
  | numberTooLong {members : List (String × Json)} {package version : String} {p : Version.Pieces}
      {digits : List Char} : isManifestKind kind = true → scheme = .semantic →
      Json.read nesting content = .ok (.object members) → (package, version) ∈ declared members →
      (∃ a ∈ advisories, a.package = package) → Version.pieces? (bareVersion version) = some p →
      digits ∈ p.numbers → Text.maxDigits < digits.length →
      BreaksOff content kind scheme nesting .numberTooLong

/-- The versions that the advisories name can be read. -/
theorem exists_read_fixedIn : ∀ a ∈ advisories, ∃ v, Version.read a.fixedIn = .ok v := by
  simp only [advisories, List.forall_mem_cons]
  exact ⟨⟨_, rfl⟩, ⟨_, rfl⟩, ⟨_, rfl⟩, ⟨_, rfl⟩, by simp⟩

/-- **Which declared packages break the pass off**: those that are looked up, in the semantic order
and in a version with a number that is too long. -/
theorem breaksPass_iff {d : String × String} :
    BreaksPass scheme d ↔ scheme = .semantic ∧ (∃ a ∈ advisories, a.package = d.1) ∧
      Version.read (bareVersion d.2) = .error .numberTooLong := by
  constructor
  · rintro ⟨a, ha, hbreak⟩
    have hmem := List.mem_of_find?_eq_some ha
    obtain ⟨v, hv⟩ := exists_read_fixedIn a hmem
    obtain ⟨hscheme, hlong⟩ := (Version.compareTexts_eq_numberTooLong_iff hv).mp hbreak
    have hname := List.find?_some ha
    exact ⟨hscheme, ⟨a, hmem, eq_of_beq hname⟩, hlong⟩
  · rintro ⟨hscheme, ⟨a, hmem, hname⟩, hlong⟩
    obtain ⟨a', ha'⟩ : ∃ a', advisories.find? (·.package == d.1) = some a' := by
      rw [← Option.isSome_iff_exists, List.find?_isSome]
      exact ⟨a, hmem, beq_iff_eq.mpr hname⟩
    obtain ⟨v, hv⟩ := exists_read_fixedIn a' (List.mem_of_find?_eq_some ha')
    exact ⟨a', ha', (Version.compareTexts_eq_numberTooLong_iff hv).mpr ⟨hscheme, hlong⟩⟩

/-- The same in terms of the reader and of the pass over the packages. -/
theorem breaksOff_iff {fault : ManifestFault} :
    BreaksOff content kind scheme nesting fault ↔ isManifestKind kind = true ∧
      ((Json.read nesting content = .error .nestedTooDeep ∧ fault = .nestedTooDeep) ∨
        (∃ members, Json.read nesting content = .ok (.object members) ∧
          (∃ d ∈ declared members, BreaksPass scheme d) ∧ fault = .numberTooLong)) := by
  constructor
  · intro h
    cases h with
    | nestedTooDeep hkind hopens =>
      exact ⟨hkind, .inl ⟨Json.read_eq_nestedTooDeep_iff.mpr hopens, rfl⟩⟩
    | @numberTooLong members package version p digits hkind hscheme hread hd hknown hp hdigits
        hlong =>
      have hversion := Version.read_eq_numberTooLong_iff.mpr ⟨p, hp, digits, hdigits, hlong⟩
      exact ⟨hkind, .inr ⟨members, hread,
        ⟨(package, version), hd, breaksPass_iff.mpr ⟨hscheme, hknown, hversion⟩⟩, rfl⟩⟩
  · rintro ⟨hkind, ⟨hread, rfl⟩ | ⟨members, hread, ⟨⟨package, version⟩, hd, hbreak⟩, rfl⟩⟩
    · exact .nestedTooDeep hkind (Json.read_eq_nestedTooDeep_iff.mp hread)
    · obtain ⟨hscheme, hknown, hversion⟩ := breaksPass_iff.mp hbreak
      obtain ⟨p, hp, digits, hdigits, hlong⟩ := Version.read_eq_numberTooLong_iff.mp hversion
      exact .numberTooLong hkind hscheme hread hd hknown hp hdigits hlong

/-- **When a check breaks off, and why.** -/
theorem check_eq_error_iff {fault : ManifestFault} :
    (check (some content) kind scheme nesting).1 = .error fault ↔
      BreaksOff content kind scheme nesting fault := by
  rw [breaksOff_iff, check]
  cases isManifestKind kind with
  | false => simp
  | true =>
    simp only [if_true, true_and, Option.map_some]
    cases hread : Json.read nesting content with
    | error e => cases e <;> simp [eq_comm]
    | ok v =>
      cases v with
      | object members =>
        rcases checkDeclared_fst scheme (declared members) with ⟨hok, hall⟩ | ⟨herr, hbreak⟩
        · simp only [hok, Except.map]
          constructor
          · intro h
            cases h
          · rintro (⟨h, -⟩ | ⟨_, h, ⟨d, hd, hbreak⟩, -⟩)
            · cases h
            · cases h
              exact absurd hbreak (hall d hd)
        · simp only [herr, Except.map]
          constructor
          · intro h
            cases h
            exact .inr ⟨members, rfl, hbreak, rfl⟩
          · rintro (⟨h, -⟩ | ⟨_, -, -, rfl⟩)
            · cases h
            · rfl
      | null | bool | int | real | str | list => simp

end Manifest

namespace Scan

open Selection Manifest

/-- **What breaks a scan off**, given that its root is no loop of links: a file that is opened, can
be read and is a manifest whose check breaks off. -/
theorem exists_files_eq_error_iff {w : World} {s : ScanSettings} {root : PathName}
    {place : List String} (hroot : w.resolve root = .ok place) :
    (∃ fault, (files w s root).1 = .error fault) ↔
      ∃ c ∈ targets w s place, ∃ real bytes fault,
        w.find? (pathOf c.1) = some (real, .file bytes none) ∧
        BreaksOff (contentOf bytes) c.2 s.text.scheme s.text.nesting fault := by
  constructor
  · rintro ⟨fault, h⟩
    obtain ⟨c, hc, f, real, bytes, hfind, hcheck, -⟩ := exists_manifest_of_files_eq_error hroot h
    exact ⟨c, hc, real, bytes, f, hfind, check_eq_error_iff.mp hcheck⟩
  · rintro ⟨c, hc, real, bytes, f, hfind, hbreak⟩
    obtain ⟨p, -, ht⟩ := exists_target?_of_mem_targets hc
    have hselected := (selected_eq_error_iff ht (candidatesOf w s.selection place).2).mpr
      ⟨f, real, bytes, hfind, check_eq_error_iff.mpr hbreak, rfl⟩
    obtain ⟨fault, hfault⟩ := exists_mapM_eq_error_of_mem
      (f := fun c => (selected w s (candidatesOf w s.selection place).2 c.1 c.2).1) hc hselected
    refine ⟨fault, ?_⟩
    rw [files_fst, hroot]
    dsimp only
    rw [hfault]
    rfl

/-- **When a scan comes to a result**: if no manifest that it can read breaks it off. -/
theorem exists_files_eq_ok_iff {w : World} {s : ScanSettings} {root : PathName}
    {place : List String} (hroot : w.resolve root = .ok place) :
    (∃ r, (files w s root).1 = .ok r) ↔
      ∀ c ∈ targets w s place, ∀ real bytes fault,
        w.find? (pathOf c.1) = some (real, .file bytes none) →
        ¬ BreaksOff (contentOf bytes) c.2 s.text.scheme s.text.nesting fault := by
  have hbreaks := exists_files_eq_error_iff (s := s) hroot
  constructor
  · rintro ⟨r, hr⟩ c hc real bytes fault hfind hbreak
    obtain ⟨fault', hfault'⟩ := hbreaks.mpr ⟨c, hc, real, bytes, fault, hfind, hbreak⟩
    rw [hr] at hfault'
    cases hfault'
  · intro h
    cases hfiles : (files w s root).1 with
    | ok r => exact ⟨r, rfl⟩
    | error fault =>
      obtain ⟨c, hc, real, bytes, fault', hfind, hbreak⟩ := hbreaks.mp ⟨fault, hfiles⟩
      exact absurd hbreak (h c hc real bytes fault' hfind)

end Scan

open Scan Selection Manifest

/-- **Nothing but nesting and long numbers breaks off.** The check of a text has an outcome exactly
if there is no such reason against it, however much nesting there is room for, and past its root a
scan of files is broken off by nothing but the manifests among them. -/
theorem breaks_off_iff (content kind : String) (scheme : VersionScheme) (nesting : Nat) (w : World)
    (s : ScanSettings) (root : PathName) :
    ((∃ outcome, (check (some content) kind scheme nesting).1 = .ok outcome) ↔
      ∀ fault, ¬ BreaksOff content kind scheme nesting fault) ∧
    (∀ fault, (check (some content) kind scheme nesting).1 = .error fault ↔
      BreaksOff content kind scheme nesting fault) ∧
    ((∃ fault, (files w s root).1 = .error (.manifest fault)) ↔
      ∃ place, w.resolve root = .ok place ∧ ∃ c ∈ targets w s place, ∃ real bytes fault,
        w.find? (pathOf c.1) = some (real, .file bytes none) ∧
        BreaksOff (contentOf bytes) c.2 s.text.scheme s.text.nesting fault) := by
  refine ⟨?_, fun _ => check_eq_error_iff, ?_⟩
  · simp only [← check_eq_error_iff]
    cases (check (some content) kind scheme nesting).1 with
    | error fault => simp
    | ok outcome => simp
  · cases hroot : w.resolve root with
    | error e => simp [files_fst, hroot]
    | ok place =>
      simp only [Except.ok.injEq, exists_eq_left']
      rw [← exists_files_eq_error_iff hroot]
      constructor
      · rintro ⟨fault, h⟩
        exact ⟨_, h⟩
      · rintro ⟨fault, h⟩
        obtain ⟨-, -, f, -, -, -, -, rfl⟩ := exists_manifest_of_files_eq_error hroot h
        exact ⟨f, h⟩

/-! ## Texts without an outcome -/

/-- A manifest that opens that many lists and closes none. -/
def brackets (n : Nat) : String := String.ofList (List.replicate n '[')

theorem breaksOff_brackets {kind : String} (hkind : isManifestKind kind = true)
    (scheme : VersionScheme) {nesting n : Nat} (hdeep : nesting < n) :
    BreaksOff (brackets n) kind scheme nesting .nestedTooDeep := by
  obtain ⟨more, rfl⟩ : ∃ more, n = nesting + 1 + more := Nat.exists_eq_add_of_le hdeep
  refine .nestedTooDeep hkind ?_
  rw [brackets, String.toList_ofList, ← List.replicate_append_replicate]
  exact Json.opens_replicate nesting _

/-- A manifest that declares one package in a version of nothing but nines. -/
def declaringNines (n : Nat) : String :=
  String.ofList ('{' :: '"' :: ("dependencies".toList ++ '"' :: ':' :: '{' :: '"' ::
    ("express".toList ++ '"' :: ':' :: '"' :: (List.replicate n '9' ++ ['"', '}', '}']))))

theorem read_declaringNines (n nesting : Nat) :
    Json.read (nesting + 2) (declaringNines n) = .ok (.object [("dependencies",
      .object [("express", .str (String.ofList (List.replicate n '9')))])]) := by
  have hnines : (List.replicate n '9').all Json.isPlain = true := by simp [Json.isPlain]
  -- from the inside out, whatever fuel there is
  have hversion (fuel levels : Nat) :
      Json.readValue (fuel + 1) levels ('"' :: (List.replicate n '9' ++ ['"', '}', '}'])) =
        .ok (.str (String.ofList (List.replicate n '9')), ['}', '}']) :=
    Json.readValue_plain hnines _
  have hpackage (fuel levels : Nat) : Json.readValue (fuel + 3) (levels + 1) ('{' :: '"' ::
      ("express".toList ++ '"' :: ':' :: '"' :: (List.replicate n '9' ++ ['"', '}', '}']))) =
        .ok (.object [("express", .str (String.ofList (List.replicate n '9')))], ['}']) :=
    Json.readValue_member (by decide) rfl (hversion fuel levels)
  have htext : (declaringNines n).toList = '{' :: '"' :: ("dependencies".toList ++ '"' :: ':' ::
      '{' :: '"' :: ("express".toList ++ '"' :: ':' :: '"' ::
        (List.replicate n '9' ++ ['"', '}', '}']))) := String.toList_ofList
  have hmanifest (fuel levels : Nat) :
      Json.readValue (fuel + 5) (levels + 2) (declaringNines n).toList =
        .ok (.object [("dependencies",
          .object [("express", .str (String.ofList (List.replicate n '9')))])], []) := by
    rw [htext]
    exact Json.readValue_member (by decide) rfl (hpackage fuel levels)
  have hskip : Json.skipSpace (declaringNines n).toList = (declaringNines n).toList := by
    rw [htext]
    rfl
  obtain ⟨fuel, hfuel⟩ : ∃ fuel, 2 * (declaringNines n).toList.length + 1 = fuel + 5 := by
    refine ⟨2 * (declaringNines n).toList.length - 4, ?_⟩
    rw [htext, List.length_cons, List.length_cons]
    omega
  rw [Json.read, hskip, hfuel, hmanifest]
  rfl

/-- **Texts without an outcome**: one bracket more than there is room for, and one digit more than
are read. -/
theorem check_without_outcome :
    (∀ nesting, (check (some (String.ofList (List.replicate (nesting + 1) '['))) "json" .lexical
      nesting).1 = .error .nestedTooDeep) ∧
    ∀ nesting, (check (some (declaringNines (Text.maxDigits + 1))) "json" .semantic
      (nesting + 2)).1 = .error .numberTooLong := by
  constructor
  · intro nesting
    exact check_eq_error_iff.mpr
      (breaksOff_brackets (by decide) .lexical (Nat.lt_succ_self nesting))
  · intro nesting
    have hbare : bareVersion (String.ofList (List.replicate (Text.maxDigits + 1) '9')) =
        String.ofList (List.replicate (Text.maxDigits + 1) '9') := by
      rw [bareVersion, String.toList_ofList, List.filter_replicate_of_pos (by decide)]
    have hpieces := Version.pieces?_nines Text.maxDigits
    rw [← hbare] at hpieces
    have hlong : Text.maxDigits < (List.replicate (Text.maxDigits + 1) '9').length := by
      rw [List.length_replicate]
      exact Nat.lt_succ_self _
    exact check_eq_error_iff.mpr (.numberTooLong (by decide) rfl (read_declaringNines _ nesting)
      (List.mem_singleton.mpr rfl) ⟨_, List.mem_cons_self, rfl⟩ hpieces
      (List.mem_cons_of_mem _ List.mem_cons_self) hlong)

/-! ## Scans that are broken off -/

namespace Scan

/-- A scan of code and manifests of any size, with some filter of the rules. -/
def ofAnySize (rules : RuleFilter) : ScanSettings :=
  { filteredBy rules with
    selection := { writtenCode with extensions := [".js", ".json"], maxKilobytes := 0 } }

variable {w : World} {rules : RuleFilter} {root : PathName} {place p : List String} {kind : String}

/-- Only the name of a file counts. -/
theorem target?_ofAnySize {real : List String} {bytes : ByteArray} {fault : Option String}
    (hfind : w.find? (pathOf p) = some (real, .file bytes fault))
    (hwritten : isGenerated (pathOf p) = false)
    (hsuffix : (pathOf p).suffix ∈ (ofAnySize rules).selection.extensions)
    (hkind : kindOfName? (pathOf p) = some kind) :
    target? w (ofAnySize rules) p = some (p, kind) := by
  have hsize : ¬ 0 < (ofAnySize rules).selection.maxKilobytes := Int.lt_irrefl 0
  refine target?_of_allowed (fun _ => hwritten) ?_ ?_
  · exact ⟨real, bytes, fault, hfind, fun h => absurd h hsize, hsuffix⟩
  · rw [kindOf?, hkind]
    rfl

theorem contentOf_brackets (n : Nat) : contentOf (brackets n).toUTF8 = brackets n := by
  have hunbroken : ¬ '\r' = '[' := by decide
  refine contentOf_toUTF8 ?_
  rw [brackets, String.toList_ofList, List.mem_replicate]
  exact fun h => hunbroken h.2

/-- **A scan that opens such a manifest comes to no result** if it is nested deeper than there
usually is room for. -/
theorem not_exists_files_of_brackets {real : List String} {n : Nat}
    (hdeep : Machine.usual.manifestNesting < n) (hroot : w.resolve root = .ok place)
    (hopened : (p, kind) ∈ targets w (ofAnySize rules) place)
    (hkind : isManifestKind kind = true)
    (hfind : w.find? (pathOf p) = some (real, .file (brackets n).toUTF8 none)) :
    ¬ ∃ r, (files w (ofAnySize rules) root).1 = .ok r := by
  rw [exists_files_eq_ok_iff hroot]
  intro hchecks
  refine hchecks _ hopened real _ .nestedTooDeep hfind ?_
  rw [contentOf_brackets]
  exact breaksOff_brackets hkind _ hdeep

end Scan

end Advisor
