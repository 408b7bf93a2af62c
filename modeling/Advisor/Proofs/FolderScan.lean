import Advisor.Proofs.FileScan

/-!
# Scanning a folder

Folders that are excluded or generated are left out of the walk, which saves going through them.
What it costs is that a folder is judged by the tests for files: `files_of_folder` says exactly
which files are reported, and `qualified_file_lost` shows one that passes every test on its own and
is not.
-/

namespace Advisor

namespace Scan

open Selection

variable {w : World} {s : ScanSettings} {root : PathName} {place : List String}

/-- **A file passes every test on its own**: no name on its path is excluded, it is not generated
where generated files are skipped, it is a file of an allowed size and ending, and its kind is
known. -/
structure Qualifies (w : World) (s : ScanSettings) (p : List String) (kind : String) : Prop where
  notExcluded : ∀ name ∈ (pathOf p).parts, name ∉ s.selection.excludes
  notGenerated : s.selection.skipGenerated = true → isGenerated (pathOf p) = false
  allowed : s.selection.Allowed w p
  kindKnown : kindOf? s p = some kind

theorem excluded_eq_false_iff {excludes parts : List String} :
    excluded excludes parts = false ↔ ∀ name ∈ parts, name ∉ excludes := by
  simp only [excluded, List.any_eq_false, List.contains_iff_mem]
  exact ⟨fun h name hp he => h name he hp, fun h name he hp => h name hp he⟩

/-- The files that are opened in a folder are found by the whole walk, in its order. -/
theorem targets_folder {entries : List (String × FileTree)}
    (hfolder : w.tree.at? place = some (.folder entries)) :
    targets w s place =
      ((s.selection.unpruned.candidates w place (.folder entries)).filter
        (s.selection.reaches place)).filterMap (target? w s) := by
  rw [targets, candidatesOf, hfolder, ← candidates_eq_filter]

/-- **Which files of a folder are opened**: those that pass every test on their own, less those
with a folder on the way that bears the name of a generated file, where such are skipped. -/
theorem mem_targets_folder_iff {entries : List (String × FileTree)}
    (hfolder : w.tree.at? place = some (.folder entries)) {p : List String} {kind : String} :
    (p, kind) ∈ targets w s place ↔
      Entry w place (.folder entries) p ∧ Qualifies w s p kind ∧
        (s.selection.skipGenerated = true →
          ∀ q, OnTheWay place q p → bearsGeneratedName (pathOf q) = false) := by
  rw [targets_folder hfolder]
  simp only [List.mem_filterMap, List.mem_filter, mem_candidates_unpruned_iff]
  constructor
  · rintro ⟨p', ⟨hentry, hreach⟩, ht⟩
    obtain ⟨rfl, hacc, hkind⟩ := target?_eq_some_iff.mp ht
    obtain ⟨hgen, hallowed⟩ := judge_eq_accepted_iff.mp hacc
    obtain ⟨n, names, rfl⟩ := hentry.exists_names
    obtain ⟨hex, hway⟩ := reaches_iff.mp hreach
    exact ⟨hentry, ⟨excluded_eq_false_iff.mp hex, hgen, hallowed, hkind⟩,
      (clear_iff hex hgen).mp hway⟩
  · rintro ⟨hentry, hq, hway⟩
    have hex := excluded_eq_false_iff.mpr hq.notExcluded
    refine ⟨p, ⟨hentry, ?_⟩, target?_of_allowed hq.notGenerated hq.allowed hq.kindKnown⟩
    obtain ⟨n, names, rfl⟩ := hentry.exists_names
    exact reaches_iff.mpr ⟨hex, (clear_iff hex hq.notGenerated).mpr hway⟩

/-- The files that are opened stand in the order of the candidates. -/
theorem sublist_targets (w : World) (s : ScanSettings) (place : List String) :
    ((targets w s place).map Prod.fst).Sublist (candidatesOf w s.selection place).1 := by
  rw [targets]
  generalize (candidatesOf w s.selection place).1 = ps
  induction ps with
  | nil => exact .slnil
  | cons p rest ih =>
    cases ht : target? w s p with
    | none =>
      rw [List.filterMap_cons_none ht]
      exact ih.cons p
    | some c =>
      obtain ⟨rfl, -⟩ := target?_eq_some_iff.mp ht
      rw [List.filterMap_cons_some ht]
      exact ih.cons_cons c.1

/-- The files that are opened in a folder stand in the order of the walk that leaves nothing
out. -/
theorem sublist_targets_folder {entries : List (String × FileTree)}
    (hfolder : w.tree.at? place = some (.folder entries)) :
    ((targets w s place).map Prod.fst).Sublist
      (s.selection.unpruned.candidates w place (.folder entries)) := by
  have hwalk : (candidatesOf w s.selection place).1 =
      (s.selection.unpruned.candidates w place (.folder entries)).filter
        (s.selection.reaches place) := by
    rw [candidatesOf, hfolder, ← candidates_eq_filter]
  have hopened := sublist_targets w s place
  rw [hwalk] at hopened
  exact hopened.trans List.filter_sublist

/-- The reports bear the names and the kinds of the files that are opened. -/
theorem paths_and_kinds_of_files {r : ScanResult} (hroot : w.resolve root = .ok place)
    (h : (files w s root).1 = .ok r) :
    r.files.map (fun x => (x.path, x.kind)) =
      (targets w s place).map
        fun c => (reportedPath w (candidatesOf w s.selection place).2 c.1, c.2) := by
  obtain ⟨place', hplace, hreports, -⟩ := files_eq_ok_iff.mp h
  rw [hroot] at hplace
  cases hplace
  have hopened : ∀ c ∈ targets w s place, ∃ p, target? w s p = some c := by
    intro c hc
    obtain ⟨p, -, ht⟩ := exists_target?_of_mem_targets hc
    exact ⟨p, ht⟩
  rw [eq_comm, ← List.forall₂_eq_eq_eq, List.forall₂_map_left_iff, List.forall₂_map_right_iff]
  refine ((List.forall₂_and_left _ _).mpr ⟨hopened, hreports⟩).imp ?_
  rintro c x ⟨⟨p, ht⟩, hsel⟩
  obtain ⟨hpath, hkind⟩ := path_and_kind_of_selected ht hsel
  rw [hpath, hkind]

/-- **The scan of a folder.** It opens, in the order of the walk that leaves nothing out, the files
that pass every test on their own, less those with a folder on the way that bears the name of a
generated file, where such are skipped. It reports on exactly these, unless the check of a manifest
among them breaks it off. -/
theorem files_of_folder {entries : List (String × FileTree)} (hroot : w.resolve root = .ok place)
    (hfolder : w.tree.at? place = some (.folder entries)) :
    (∀ p kind, (p, kind) ∈ targets w s place ↔
      Entry w place (.folder entries) p ∧ Qualifies w s p kind ∧
        (s.selection.skipGenerated = true →
          ∀ q, OnTheWay place q p → bearsGeneratedName (pathOf q) = false)) ∧
    ((targets w s place).map Prod.fst).Sublist
      (s.selection.unpruned.candidates w place (.folder entries)) ∧
    match (files w s root).1 with
    | .ok r =>
      r.filesScanned = r.files.length ∧
        r.files.map (fun x => (x.path, x.kind)) =
          (targets w s place).map fun c => (reportedPath w place c.1, c.2)
    | .error fault =>
      ∃ c ∈ targets w s place, ∃ f real bytes,
        w.find? (pathOf c.1) = some (real, .file bytes none) ∧
        (Manifest.check (some (contentOf bytes)) c.2 s.text.scheme s.text.nesting).1 = .error f ∧
        fault = .manifest f := by
  refine ⟨fun p kind => mem_targets_folder_iff hfolder, sublist_targets_folder hfolder, ?_⟩
  cases h : (files w s root).1 with
  | error fault => exact exists_manifest_of_files_eq_error hroot h
  | ok r =>
    have hbase : (candidatesOf w s.selection place).2 = place := by rw [candidatesOf, hfolder]
    have hnames := paths_and_kinds_of_files hroot h
    rw [hbase] at hnames
    obtain ⟨-, -, -, hscanned⟩ := files_eq_ok_iff.mp h
    exact ⟨hscanned, hnames⟩

/-- A folder that is called like a file that tools write, with one file in it. -/
def sourceMaps : World :=
  ⟨.folder [("site.map", .folder [("a.js", .file ByteArray.empty none)])], [], .usual⟩

theorem qualifies_sourceMaps :
    Entry sourceMaps [] sourceMaps.tree ["site.map", "a.js"] ∧
      Qualifies sourceMaps (filteredBy .everything) ["site.map", "a.js"] "code" := by
  have hfind : sourceMaps.find? (pathOf ["site.map", "a.js"]) =
      some (["site.map", "a.js"], .file ByteArray.empty none) := by cbv
  refine ⟨.deeper List.mem_cons_self (.here List.mem_cons_self rfl), ?_⟩
  exact ⟨by decide, fun _ => by decide, ⟨_, _, _, hfind, by decide, by decide⟩, by decide⟩

/-- The folder itself, when it is scanned on its own, and what is said of its file. -/
theorem files_of_folder_sourceMaps :
    sourceMaps.resolve ⟨"", ["site.map"]⟩ = .ok ["site.map"] ∧
      sourceMaps.tree.at? ["site.map"] = some (.folder [("a.js", .file ByteArray.empty none)]) ∧
      (["site.map", "a.js"], "code") ∈
        targets sourceMaps (filteredBy .everything) ["site.map"] := by
  have hroot : sourceMaps.resolve ⟨"", ["site.map"]⟩ = .ok ["site.map"] := by cbv
  obtain ⟨hmem, -⟩ := files_of_folder (s := filteredBy .everything) hroot rfl
  refine ⟨hroot, rfl, (hmem _ _).mpr ⟨.here List.mem_cons_self rfl, qualifies_sourceMaps.2, ?_⟩⟩
  -- nothing stands between the folder and its file
  rintro - q ⟨u, v, hu, hv, rfl, hp⟩
  have hlength := congrArg List.length hp
  simp only [List.length_append, List.length_cons, List.length_nil] at hlength
  have := List.length_pos_of_ne_nil hu
  have := List.length_pos_of_ne_nil hv
  omega

/-- **A file that passes every test on its own and is lost**: nothing is reported from the folder
above, since the walk does not enter the one below. -/
theorem qualified_file_lost :
    Entry sourceMaps [] sourceMaps.tree ["site.map", "a.js"] ∧
      Qualifies sourceMaps (filteredBy .everything) ["site.map", "a.js"] "code" ∧
      (files sourceMaps (filteredBy .everything) ⟨"", []⟩).1 =
        .ok { files := [], filesScanned := 0 } := by
  obtain ⟨hentry, hqualifies⟩ := qualifies_sourceMaps
  have hgenerated : bearsGeneratedName (pathOf ["site.map"]) = true := by decide
  have htargets : targets sourceMaps (filteredBy .everything) [] = [] := by
    refine List.eq_nil_iff_forall_not_mem.mpr ?_
    rintro ⟨p, kind⟩ hp
    obtain ⟨hentry, -, hway⟩ := (mem_targets_folder_iff rfl).mp hp
    cases hentry with
    | here hmem hno =>
      cases List.mem_singleton.mp hmem
      cases hno
    | deeper hmem hbelow =>
      cases List.mem_singleton.mp hmem
      obtain ⟨n, names, rfl⟩ := hbelow.exists_names
      have := hway rfl ["site.map"] ⟨["site.map"], n :: names, by simp, by simp, rfl, rfl⟩
      rw [hgenerated] at this
      cases this
  refine ⟨hentry, hqualifies, files_eq_ok_iff.mpr ⟨[], by cbv, ?_, rfl⟩⟩
  rw [htargets]
  exact .nil

end Scan

end Advisor
