import Advisor.Proofs.Alike

/-!
# The order of a listing

A file system lists the entries of a folder in any order it likes. `FileTree.Reordered` relates the
trees that differ in this alone, and no place shows the difference (`Reordered.rel_at?`).
`files_of_reordered` says that a scan does not show it either, and in which order its reports come.
-/

namespace Advisor

/-! ## Trees that are listed in another order -/

namespace FileTree

/-- One tree is another one with the entries of its folders in some other order: this is what comes
of putting the entries of one folder after the other in an order of any kind. -/
inductive Reordered : FileTree → FileTree → Prop
  | refl (t : FileTree) : Reordered t t
  | entries {entries entries' : List (String × FileTree)} : entries.Perm entries' →
      Reordered (.folder entries) (.folder entries')
  | inside {front back : List (String × FileTree)} {n : String} {t t' : FileTree} : Reordered t t' →
      Reordered (.folder (front ++ (n, t) :: back)) (.folder (front ++ (n, t') :: back))
  | trans {t u v : FileTree} : Reordered t u → Reordered u v → Reordered t v

theorem Alike.refl (t : FileTree) : t.Alike Eq t := by
  cases t <;> constructor
  rfl

theorem Alike.trans {t u v : FileTree} (h : t.Alike Eq u) (h' : u.Alike Eq v) : t.Alike Eq v := by
  cases h with
  | file heq =>
    cases heq
    exact h'
  | folder entries entries' =>
    cases h'
    exact .folder _ _
  | link target => exact h'

theorem Reordered.wellNamed {t t' : FileTree} (h : t.Reordered t') (hnamed : t.WellNamed) :
    t'.WellNamed := by
  induction h with
  | refl t => exact hnamed
  | entries hperm =>
    obtain ⟨hnames, hbelow⟩ := wellNamed_folder_iff.mp hnamed
    exact .folder ((hperm.map Prod.fst).nodup_iff.mp hnames)
      fun e he => hbelow e (hperm.mem_iff.mpr he)
  | @inside front back n t t' _ ih =>
    obtain ⟨hnames, hbelow⟩ := wellNamed_folder_iff.mp hnamed
    simp only [List.forall_mem_append, List.forall_mem_cons] at hbelow
    obtain ⟨hfront, ht, hback⟩ := hbelow
    refine .folder (by simpa using hnames) ?_
    simp only [List.forall_mem_append, List.forall_mem_cons]
    exact ⟨hfront, ih ht, hback⟩
  | trans _ _ ih ih' => exact ih' (ih hnamed)

/-- Entries in another order are found under the same names. -/
theorem at?_of_perm {entries entries' : List (String × FileTree)} (hperm : entries.Perm entries')
    (hnames : (entries.map Prod.fst).Nodup) (n : String) :
    (folder entries).at? [n] = (folder entries').at? [n] := by
  have hnames' := (hperm.map Prod.fst).nodup_iff.mp hnames
  refine Option.ext fun t => ⟨fun h => ?_, fun h => ?_⟩
  · exact at?_of_mem hnames' (hperm.mem_iff.mp (mem_of_at? h))
  · exact at?_of_mem hnames (hperm.mem_iff.mpr (mem_of_at? h))

theorem rel_alike_refl (o : Option FileTree) : Option.Rel (Alike Eq) o o := by
  cases o with
  | none => exact .none
  | some t => exact .some (.refl t)

theorem rel_alike_trans {o₁ o₂ o₃ : Option FileTree} (h : Option.Rel (Alike Eq) o₁ o₂)
    (h' : Option.Rel (Alike Eq) o₂ o₃) : Option.Rel (Alike Eq) o₁ o₃ := by
  cases h with
  | none => exact h'
  | some h =>
    cases h' with
    | some h' => exact .some (h.trans h')

/-- **Another order of the entries does not show at any place.** -/
theorem Reordered.rel_at? {t t' : FileTree} (h : t.Reordered t') (hnamed : t.WellNamed)
    (p : List String) : Option.Rel (Alike Eq) (t.at? p) (t'.at? p) := by
  induction h generalizing p with
  | refl t => exact rel_alike_refl _
  | @entries entries entries' hperm =>
    cases p with
    | nil => exact .some (.folder _ _)
    | cons n rest =>
      rw [at?_cons (.folder entries), at?_cons (.folder entries'),
        at?_of_perm hperm (wellNamed_folder_iff.mp hnamed).1]
      exact rel_alike_refl _
  | @inside front back n t t' _ ih =>
    have ht : t.WellNamed := (wellNamed_folder_iff.mp hnamed).2 (n, t) (by simp)
    cases p with
    | nil => exact .some (.folder _ _)
    | cons m rest =>
      rw [at?_cons (.folder (front ++ (n, t) :: back)),
        at?_cons (.folder (front ++ (n, t') :: back)), at?_folder, at?_folder, List.lookup_append,
        List.lookup_append, List.lookup_cons, List.lookup_cons]
      -- the one entry that is not the same in both is `t` or `t'` itself
      cases front.lookup m with
      | some u => exact rel_alike_refl _
      | none =>
        cases m == n with
        | true => exact ih ht rest
        | false => exact rel_alike_refl _
  | trans h₁ _ ih ih' => exact rel_alike_trans (ih hnamed p) (ih' (h₁.wellNamed hnamed) p)

end FileTree

/-! ## The scan -/

namespace Scan

open FileTree Selection

variable {w w' : World} {s : ScanSettings} {place : List String}

/-- **Which files a scan selects**: the one that it starts from, if it is allowed, not generated
where such are skipped, and of a known kind; or those in or below a folder that pass every test on
their own and have no folder on the way that bears the name of a generated file, where such are
skipped. -/
inductive Selects (w : World) (s : ScanSettings) (place : List String) :
    List String → String → Prop
  | alone {bytes : ByteArray} {fault : Option String} {kind : String} :
      w.tree.at? place = some (.file bytes fault) →
      (s.selection.skipGenerated = true → isGenerated (pathOf place) = false) →
      s.selection.Allowed w place → kindOf? s place = some kind → Selects w s place place kind
  | inFolder {entries : List (String × FileTree)} {p : List String} {kind : String} :
      w.tree.at? place = some (.folder entries) → Entry w place (.folder entries) p →
      Qualifies w s p kind →
      (s.selection.skipGenerated = true →
        ∀ q, OnTheWay place q p → bearsGeneratedName (pathOf q) = false) →
      Selects w s place p kind

theorem mem_targets_iff {p : List String} {kind : String} :
    (p, kind) ∈ targets w s place ↔ Selects w s place p kind := by
  constructor
  · intro h
    cases hat : w.tree.at? place with
    | none =>
      rw [targets, candidatesOf, hat] at h
      cases h
    | some t =>
      cases t with
      | file bytes fault =>
        rw [targets, candidatesOf, hat] at h
        obtain ⟨p', hp', ht⟩ := List.mem_filterMap.mp h
        obtain rfl := List.mem_singleton.mp hp'
        obtain ⟨rfl, hacc, hkind⟩ := target?_eq_some_iff.mp ht
        obtain ⟨hgen, hallowed⟩ := judge_eq_accepted_iff.mp hacc
        exact .alone hat hgen hallowed hkind
      | folder entries =>
        obtain ⟨hentry, hqualifies, hway⟩ := (mem_targets_folder_iff hat).mp h
        exact .inFolder hat hentry hqualifies hway
      | link target =>
        rw [targets, candidatesOf, hat] at h
        simp [Selection.candidates] at h
  · intro h
    cases h with
    | alone hat hgen hallowed hkind =>
      rw [targets, candidatesOf, hat]
      exact List.mem_filterMap.mpr ⟨place, List.mem_singleton_self place,
        target?_of_allowed hgen hallowed hkind⟩
    | inFolder hat hentry hqualifies hway =>
      exact (mem_targets_folder_iff hat).mpr ⟨hentry, hqualifies, hway⟩

/-- The files that a scan opens come in the order of the walk. -/
theorem pairwise_precedes_targets (hnamed : w.tree.WellNamed) :
    ((targets w s place).map Prod.fst).Pairwise Precedes := by
  refine List.Pairwise.sublist (sublist_targets w s place) ?_
  rw [candidatesOf]
  cases hat : w.tree.at? place with
  | none => exact .nil
  | some t =>
    have hwalk : (s.selection.candidates w place t).Pairwise Precedes :=
      pairwise_precedes_candidates (hnamed.at? hat)
    cases t with
    | file bytes fault => exact List.pairwise_singleton _ _
    | folder entries => exact hwalk
    | link target => exact hwalk

/-- **The order of a listing does not matter.** A scan of a tree whose entries are listed in any
other order comes to the same, in its result and in all that happens on the way. It opens each file
that it selects once: those of a folder by their names, then those of its subfolders, which go by
their names as well. There is one report for each of them in this order, unless the check of a
manifest among them breaks the scan off. -/
theorem files_of_reordered (hnamed : w.tree.WellNamed) (hreordered : w.tree.Reordered w'.tree)
    (hhere : w.here = w'.here) (s : ScanSettings) (root : PathName) :
    files w' s root = files w s root ∧
      ∀ place, w.resolve root = .ok place →
        ((targets w s place).map Prod.fst).Pairwise Precedes ∧
        ((targets w s place).map Prod.fst).Nodup ∧
        (∀ p kind, (p, kind) ∈ targets w s place ↔ Selects w s place p kind) ∧
        match (files w s root).1 with
        | .ok r =>
          List.Forall₂
            (fun c x => (selected w s (candidatesOf w s.selection place).2 c.1 c.2).1 = .ok x)
            (targets w s place) r.files
        | .error fault =>
          ∃ c ∈ targets w s place, ∃ f real bytes,
            w.find? (pathOf c.1) = some (real, .file bytes none) ∧
            (Manifest.check (some (contentOf bytes)) c.2 s.text.scheme s.text.nesting).1 = .error f ∧
            fault = .manifest f := by
  have halike : World.Alike Eq w w' := ⟨hhere, hreordered.rel_at? hnamed⟩
  refine ⟨(halike.files hnamed (hreordered.wellNamed hnamed) s root).symm, ?_⟩
  intro place hroot
  have horder : ((targets w s place).map Prod.fst).Pairwise Precedes :=
    pairwise_precedes_targets hnamed
  refine ⟨horder, nodup_of_precedes horder, fun p kind => mem_targets_iff, ?_⟩
  cases h : (files w s root).1 with
  | error fault => exact exists_manifest_of_files_eq_error hroot h
  | ok r =>
    obtain ⟨place', hplace, hreports, -⟩ := files_eq_ok_iff.mp h
    rw [hroot] at hplace
    cases hplace
    exact hreports

/-- Files with one weakness each, in a folder and below it. -/
def shelf : World :=
  ⟨.folder [("a", .folder [("d.js", .file drawing.toUTF8 none),
      ("c.js", .file drawing.toUTF8 none)]), ("b.js", .file drawing.toUTF8 none)], [], .usual⟩

/-- The same files as another system lists them. -/
def shelfAnew : World :=
  ⟨.folder [("b.js", .file drawing.toUTF8 none), ("a", .folder [("c.js", .file drawing.toUTF8 none),
    ("d.js", .file drawing.toUTF8 none)])], [], .usual⟩

theorem wellNamed_shelf : shelf.tree.WellNamed := by
  refine .folder (by decide) ?_
  simp only [List.forall_mem_cons, List.not_mem_nil, false_imp_iff, implies_true, and_true]
  refine ⟨.folder (by decide) ?_, .file _ _⟩
  simp only [List.forall_mem_cons, List.not_mem_nil, false_imp_iff, implies_true, and_true]
  exact ⟨.file _ _, .file _ _⟩

theorem reordered_shelf : shelf.tree.Reordered shelfAnew.tree :=
  .trans (@Reordered.inside [] _ "a" _ _ (.entries (.swap _ _ []))) (.entries (.swap _ _ []))

/-- The file of the folder comes first, although the name of the subfolder is before its own. -/
theorem files_shelf :
    (files shelf (filteredBy unparsed) ⟨"", []⟩).1 =
      .ok { files := ["b.js", "a/c.js", "a/d.js"].map (drawnAt 1), filesScanned := 3 } := by
  have hroot : shelf.resolve ⟨"", []⟩ = .ok [] := by cbv
  have hwalk : candidatesOf shelf writtenCode [] =
      ([["b.js"], ["a", "c.js"], ["a", "d.js"]], []) := by cbv
  have hfind : ∀ p ∈ [["b.js"], ["a", "c.js"], ["a", "d.js"]], ∃ real,
      shelf.find? (pathOf p) = some (real, .file drawing.toUTF8 none) := by
    simp only [List.forall_mem_cons, List.not_mem_nil, false_imp_iff, implies_true, and_true]
    refine ⟨⟨["b.js"], ?_⟩, ⟨["a", "c.js"], ?_⟩, ⟨["a", "d.js"], ?_⟩⟩ <;> cbv
  have hnames : [["b.js"], ["a", "c.js"], ["a", "d.js"]].map (reportedPath shelf []) =
      ["b.js", "a/c.js", "a/d.js"] := by cbv
  obtain ⟨-, hfiles⟩ := files_of_drawing hroot hwalk (by decide) hfind
  rw [hfiles, ← hnames, List.map_map]
  rfl

/-- As the other system lists them, the reports come in the same order. -/
theorem files_of_reordered_shelf :
    shelf.tree.WellNamed ∧ shelf.tree.Reordered shelfAnew.tree ∧ shelf.here = shelfAnew.here ∧
      (files shelfAnew (filteredBy unparsed) ⟨"", []⟩).1 =
        .ok { files := ["b.js", "a/c.js", "a/d.js"].map (drawnAt 1), filesScanned := 3 } ∧
      ((targets shelf (filteredBy unparsed) []).map Prod.fst).Pairwise Precedes := by
  obtain ⟨hfiles, hscan⟩ := files_of_reordered wellNamed_shelf reordered_shelf rfl
    (filteredBy unparsed) ⟨"", []⟩
  obtain ⟨horder, -⟩ := hscan [] (by cbv)
  refine ⟨wellNamed_shelf, reordered_shelf, rfl, ?_, horder⟩
  rw [hfiles]
  exact files_shelf

end Scan

end Advisor
