import Advisor.Proofs.BreakingOff
import Advisor.Proofs.ListingOrder

/-!
# Looser selections

A selection can be loosened: fewer names are excluded, generated files are no longer skipped, more
endings are scanned, larger files are let through. Each of these lets the walk enter every folder
that it entered before and accepts every file that was accepted, so what was opened still is, in the
same order (`sublist_targets_of_looser`). As a report depends on its file alone, the old reports
stand among the new ones, unless one of the files that are new breaks the scan off, which loses them
all: `files_of_looser`.
-/

namespace Advisor

/-- **One selection is looser than another**: it excludes no other names, skips generated files only
where the other one does, scans all the endings of the other one, and has no limit on sizes or a
limit that is not below the other's. -/
structure Selection.LooserThan (s' s : Selection) : Prop where
  excludes : s'.excludes ⊆ s.excludes
  skipGenerated : s'.skipGenerated = true → s.skipGenerated = true
  extensions : s.extensions ⊆ s'.extensions
  maxKilobytes : s'.maxKilobytes ≤ 0 ∨ 0 < s.maxKilobytes ∧ s.maxKilobytes ≤ s'.maxKilobytes

/-- **One scan selects more loosely than another**, and is the same in all else. -/
structure ScanSettings.LooserThan (s' s : ScanSettings) : Prop where
  selection : s'.selection.LooserThan s.selection
  kind : s'.kind = s.kind
  text : s'.text = s.text

/-! ## The walk -/

namespace Selection

variable {w : World} {s s' : Selection} {place : List String}

namespace LooserThan

theorem excluded (h : s'.LooserThan s) {parts : List String}
    (hs : Selection.excluded s.excludes parts = false) :
    Selection.excluded s'.excludes parts = false := by
  rw [Scan.excluded_eq_false_iff] at hs ⊢
  intro name hname hex
  exact hs name hname (h.excludes hex)

/-- A place that is not left out is not left out by the looser selection either. -/
theorem prunes (h : s'.LooserThan s) {p : List String} (hs : s.prunes p = false) :
    s'.prunes p = false := by
  rw [Selection.prunes, Bool.or_eq_false_iff] at hs ⊢
  obtain ⟨hex, hgen⟩ := hs
  refine ⟨h.excluded hex, ?_⟩
  cases hskip : s'.skipGenerated with
  | false => rfl
  | true => rwa [h.skipGenerated hskip] at hgen

theorem enters (h : s'.LooserThan s) {e : String × FileTree} (hs : s.enters place e = true) :
    s'.enters place e = true := by
  rw [Selection.enters, Bool.and_eq_true, Bool.not_eq_true'] at hs ⊢
  exact ⟨hs.1, h.prunes hs.2⟩

theorem sublist_filesOf (h : s'.LooserThan s) (entries : List (String × FileTree)) :
    (filesOf w s place entries).Sublist (filesOf w s' place entries) := by
  refine List.monotone_filter_right _ fun p hp => ?_
  rw [Bool.not_eq_true'] at hp ⊢
  exact h.excluded hp

/-- **The looser walk lists what the other lists**, and maybe more in between. -/
theorem sublist_candidates (h : s'.LooserThan s) (place : List String) (t : FileTree) :
    (s.candidates w place t).Sublist (s'.candidates w place t) := by
  induction t generalizing place with
  | file bytes fault => simp [candidates]
  | link target => simp [candidates]
  | folder entries ih =>
    rw [candidates_folder, candidates_folder]
    have hbelow : (((byName entries).filter (s.enters place)).flatMap
          fun e => s.candidates w (place ++ [e.1]) e.2).Sublist
        (((byName entries).filter (s.enters place)).flatMap
          fun e => s'.candidates w (place ++ [e.1]) e.2) := by
      refine List.Sublist.flatMap_right _ fun e he => ?_
      exact ih e (mem_byName_iff.mp (List.mem_of_mem_filter he)) _
    have henters : ((byName entries).filter (s.enters place)).Sublist
        ((byName entries).filter (s'.enters place)) :=
      List.monotone_filter_right _ fun e he => h.enters he
    exact (h.sublist_filesOf entries).append (hbelow.trans (henters.flatMap _))

/-- **A file that is accepted is accepted by the looser selection.** -/
theorem judge (h : s'.LooserThan s) {p : List String} (hs : s.judge w p = .accepted) :
    s'.judge w p = .accepted := by
  obtain ⟨hgen, real, bytes, fault, hfind, hsize, hend⟩ := judge_eq_accepted_iff.mp hs
  refine judge_eq_accepted_iff.mpr
    ⟨fun hskip => hgen (h.skipGenerated hskip), real, bytes, fault, hfind, ?_, h.extensions hend⟩
  intro hlimit
  rcases h.maxKilobytes with hnone | ⟨hpos, hle⟩
  · omega
  · have := hsize hpos
    omega

end LooserThan

end Selection

/-! ## What is opened -/

section Sublists

variable {α β : Type}

/-- What goes with a part of a list is part of what goes with the whole. -/
theorem exists_sublist_of_forall₂ {R : α → β → Prop} {l l' : List α} {r' : List β}
    (hsub : l.Sublist l') (h : List.Forall₂ R l' r') : ∃ r, List.Forall₂ R l r ∧ r.Sublist r' := by
  induction hsub generalizing r' with
  | slnil => exact ⟨[], .nil, List.nil_sublist r'⟩
  | cons a _ ih =>
    cases h with
    | cons _ hrest =>
      obtain ⟨r, hr, hsub⟩ := ih hrest
      exact ⟨r, hr, hsub.cons _⟩
  | cons_cons a _ ih =>
    cases h with
    | cons hab hrest =>
      obtain ⟨r, hr, hsub⟩ := ih hrest
      exact ⟨_, .cons hab hr, hsub.cons_cons _⟩

end Sublists

namespace Scan

open Selection

variable {w : World} {s s' : ScanSettings} {place : List String}

/-- The folder that names are counted from does not depend on the selection. -/
theorem candidatesOf_snd (w : World) (s s' : Selection) (place : List String) :
    (candidatesOf w s place).2 = (candidatesOf w s' place).2 := by
  rw [candidatesOf, candidatesOf]
  cases w.tree.at? place with
  | none => rfl
  | some t => cases t <;> rfl

theorem sublist_candidatesOf {s s' : Selection} (h : s'.LooserThan s) (place : List String) :
    (candidatesOf w s place).1.Sublist (candidatesOf w s' place).1 := by
  rw [candidatesOf, candidatesOf]
  cases w.tree.at? place with
  | none => exact List.Sublist.refl _
  | some t =>
    cases t with
    | file bytes fault => exact List.Sublist.refl _
    | folder entries => exact h.sublist_candidates place _
    | link target => exact h.sublist_candidates place _

theorem target?_of_looser (h : s'.LooserThan s) {c : List String × String}
    (hc : target? w s place = some c) : target? w s' place = some c := by
  obtain ⟨hplace, hacc, hkind⟩ := target?_eq_some_iff.mp hc
  refine target?_eq_some_iff.mpr ⟨hplace, h.selection.judge hacc, ?_⟩
  rwa [kindOf?, h.kind]

/-- **What is opened is opened under looser settings**, in the same order. -/
theorem sublist_targets_of_looser (h : s'.LooserThan s) (place : List String) :
    (targets w s place).Sublist (targets w s' place) :=
  filterMap_sublist (sublist_candidatesOf h.selection place) fun _ _ => target?_of_looser h

/-- What is said of a file does not depend on the selection. -/
theorem selected_of_looser (h : s'.LooserThan s) (place p : List String) (kind : String) :
    selected w s' (candidatesOf w s'.selection place).2 p kind =
      selected w s (candidatesOf w s.selection place).2 p kind := by
  rw [candidatesOf_snd w s'.selection s.selection]
  simp only [selected, h.text]

/-! ## The reports -/

/-- The reports of a scan are part of those of a looser one that comes to a result. -/
theorem exists_sublist_of_looser (h : s'.LooserThan s) {root : PathName} {r' : ScanResult}
    (hr' : (files w s' root).1 = .ok r') :
    ∃ r, (files w s root).1 = .ok r ∧ r.files.Sublist r'.files := by
  obtain ⟨place, hplace, hreports, -⟩ := files_eq_ok_iff.mp hr'
  simp only [selected_of_looser h] at hreports
  obtain ⟨reports, hsame, hsub⟩ :=
    exists_sublist_of_forall₂ (sublist_targets_of_looser h place) hreports
  exact ⟨⟨reports, reports.length⟩, files_eq_ok_iff.mpr ⟨place, hplace, hsame, rfl⟩, hsub⟩

theorem files_eq_linkLoop_iff {root : PathName} :
    (files w s root).1 = .error .linkLoop ↔ ∃ fault, w.resolve root = .error fault := by
  cases hroot : w.resolve root with
  | error fault => simp [files_fst, hroot]
  | ok place =>
    simp only [reduceCtorEq, exists_false, iff_false]
    intro h
    obtain ⟨-, -, f, -, -, -, -, hfault⟩ := exists_manifest_of_files_eq_error hroot h
    cases hfault

/-- **Looser settings only add reports, unless they add a file that breaks the scan off.** Whatever
is opened is opened under looser settings as well, in the same order, and the same is said of it. If
the looser scan comes to a result, then so does the other one, and its reports are a part of those
of the looser scan, as they stand there. If the other one comes to a result, then the looser one has
these reports among its own exactly if none of the files that only the looser one opens can be read
and is a manifest whose check breaks off. Either scan counts its reports, and a root that is a loop
of links is one for both. -/
theorem files_of_looser (h : s'.LooserThan s) (w : World) (root : PathName) :
    (∀ place, w.resolve root = .ok place →
      (targets w s place).Sublist (targets w s' place) ∧
      ∀ c ∈ targets w s place,
        selected w s' (candidatesOf w s'.selection place).2 c.1 c.2 =
          selected w s (candidatesOf w s.selection place).2 c.1 c.2) ∧
    (∀ r', (files w s' root).1 = .ok r' → r'.filesScanned = r'.files.length ∧
      ∃ r, (files w s root).1 = .ok r ∧ r.files.Sublist r'.files) ∧
    (∀ r, (files w s root).1 = .ok r → r.filesScanned = r.files.length ∧
      ∃ place, w.resolve root = .ok place ∧
        ((∃ r', (files w s' root).1 = .ok r' ∧ r.files.Sublist r'.files) ↔
          ∀ c ∈ targets w s' place, c ∉ targets w s place → ∀ real bytes fault,
            w.find? (pathOf c.1) = some (real, .file bytes none) →
            ¬ Manifest.BreaksOff (contentOf bytes) c.2 s.text.scheme s.text.nesting fault)) ∧
    ((files w s' root).1 = .error .linkLoop ↔ (files w s root).1 = .error .linkLoop) := by
  refine ⟨fun place _ => ⟨sublist_targets_of_looser h place, fun c _ => selected_of_looser h ..⟩,
    fun r' hr' => ?_, fun r hr => ?_, files_eq_linkLoop_iff.trans files_eq_linkLoop_iff.symm⟩
  · obtain ⟨-, -, -, hscanned⟩ := files_eq_ok_iff.mp hr'
    exact ⟨hscanned, exists_sublist_of_looser h hr'⟩
  · obtain ⟨place, hplace, -, hscanned⟩ := files_eq_ok_iff.mp hr
    refine ⟨hscanned, place, hplace, ?_⟩
    constructor
    · rintro ⟨r', hr', -⟩ c hc -
      rw [← h.text]
      exact (exists_files_eq_ok_iff hplace).mp ⟨r', hr'⟩ c hc
    · intro hadded
      -- the files that both open do not break the first scan off, so neither the second
      have hopened := (exists_files_eq_ok_iff hplace).mp ⟨r, hr⟩
      obtain ⟨r', hr'⟩ : ∃ r', (files w s' root).1 = .ok r' := by
        refine (exists_files_eq_ok_iff hplace).mpr fun c hc => ?_
        rw [h.text]
        by_cases hold : c ∈ targets w s place
        · exact hopened c hold
        · exact hadded c hc hold
      obtain ⟨r₀, hr₀, hsub⟩ := exists_sublist_of_looser h hr'
      rw [hr] at hr₀
      cases hr₀
      exact ⟨r', hr', hsub⟩

/-- A scan of code that leaves one folder out and has a lower limit on sizes. -/
def withoutFolder : ScanSettings :=
  { filteredBy unparsed with
    selection := { writtenCode with excludes := ["a"], maxKilobytes := 1 } }

/-- Only the file beside the folder is opened. -/
theorem targets_withoutFolder : targets shelf withoutFolder [] = [(["b.js"], "code")] := by
  have hwalk : candidatesOf shelf withoutFolder.selection [] = ([["b.js"]], []) := by cbv
  have hfind : shelf.find? (pathOf ["b.js"]) = some (["b.js"], .file drawing.toUTF8 none) := by cbv
  have hallowed : withoutFolder.selection.Allowed shelf ["b.js"] :=
    ⟨_, _, _, hfind, by decide, by decide⟩
  have hkind : kindOfName? (pathOf ["b.js"]) = some "code" := by decide
  have htarget : target? shelf withoutFolder ["b.js"] = some (["b.js"], "code") :=
    target?_of_allowed (fun _ => by decide) hallowed hkind
  simp [targets, hwalk, htarget]

/-- With the folder back in, the report on the file beside it is still there. -/
theorem files_of_looser_shelf :
    (filteredBy unparsed).LooserThan withoutFolder ∧
      ∃ r, (files shelf withoutFolder ⟨"", []⟩).1 = .ok r ∧
        r.files.map (fun x => (x.path, x.kind)) = [("b.js", "code")] ∧
        r.files.Sublist (["b.js", "a/c.js", "a/d.js"].map (drawnAt 1)) := by
  have hlooser : (filteredBy unparsed).LooserThan withoutFolder :=
    ⟨⟨by decide, id, List.Subset.refl _, .inr (by decide)⟩, rfl, rfl⟩
  have hroot : shelf.resolve ⟨"", []⟩ = .ok [] := by cbv
  have hname : reportedPath shelf [] ["b.js"] = "b.js" := by cbv
  obtain ⟨-, hresult, -, -⟩ := files_of_looser hlooser shelf ⟨"", []⟩
  obtain ⟨-, r, hr, hsub⟩ := hresult _ files_shelf
  refine ⟨hlooser, r, hr, ?_, hsub⟩
  have hbase : (candidatesOf shelf withoutFolder.selection []).2 = [] := rfl
  rw [paths_and_kinds_of_files hroot hr, targets_withoutFolder, hbase, List.map_singleton, hname]

/-- A file with a weakness, and beside it a folder with a manifest. -/
def besideFolder (content : String) : World :=
  ⟨.folder [("a.js", .file drawing.toUTF8 none),
    ("deep", .folder [("b.json", .file content.toUTF8 none)])], [], .usual⟩

/-- A scan that leaves that folder out. -/
def withoutDeep : ScanSettings :=
  { ofAnySize unparsed with
    selection := { (ofAnySize unparsed).selection with excludes := ["deep"] } }

theorem resolve_besideFolder (content : String) :
    (besideFolder content).resolve ⟨"", []⟩ = .ok [] := by
  cbv

theorem find?_besideFolder (content : String) :
    (besideFolder content).find? (pathOf ["a.js"]) =
        some (["a.js"], .file drawing.toUTF8 none) ∧
      (besideFolder content).find? (pathOf ["deep", "b.json"]) =
        some (["deep", "b.json"], .file content.toUTF8 none) := by
  constructor <;> cbv

/-- Without the folder, the scan reports the weakness. -/
theorem files_withoutDeep (content : String) :
    (files (besideFolder content) withoutDeep ⟨"", []⟩).1 =
      .ok { files := [drawnAt 1 "a.js"], filesScanned := 1 } := by
  have hwalk : candidatesOf (besideFolder content) withoutDeep.selection [] = ([["a.js"]], []) := by
    cbv
  have hname : reportedPath (besideFolder content) [] ["a.js"] = "a.js" := by cbv
  have hfind := (find?_besideFolder content).1
  have hlimit : ¬ 0 < withoutDeep.selection.maxKilobytes := by decide
  have hallowed : withoutDeep.selection.Allowed (besideFolder content) ["a.js"] :=
    ⟨_, _, _, hfind, fun h => absurd h hlimit, by decide⟩
  have hkind : kindOfName? (pathOf ["a.js"]) = some "code" := by decide
  have htarget : target? (besideFolder content) withoutDeep ["a.js"] = some (["a.js"], "code") :=
    target?_of_allowed (fun _ => by decide) hallowed hkind
  have hselected : (selected (besideFolder content) withoutDeep [] ["a.js"] "code").1 =
      .ok (drawnAt 1 "a.js") := by
    have htext : withoutDeep.text = (filteredBy unparsed).text := rfl
    rw [selected_of_drawing htext hfind (by decide), hname]
  refine files_eq_ok_iff.mpr ⟨[], resolve_besideFolder content, ?_, rfl⟩
  simp only [targets, hwalk, List.filterMap_cons, htarget, List.filterMap_nil]
  exact .cons hselected .nil

/-- With the folder, the scan opens the manifest. -/
theorem mem_targets_besideFolder (content : String) :
    (["deep", "b.json"], "json") ∈ targets (besideFolder content) (ofAnySize unparsed) [] := by
  have hwalk : candidatesOf (besideFolder content) (ofAnySize unparsed).selection [] =
      ([["a.js"], ["deep", "b.json"]], []) := by cbv
  have htarget : target? (besideFolder content) (ofAnySize unparsed) ["deep", "b.json"] =
      some (["deep", "b.json"], "json") :=
    target?_ofAnySize (find?_besideFolder content).2 (by decide) (by decide) (by decide)
  rw [targets, hwalk]
  exact List.mem_filterMap.mpr ⟨_, List.mem_cons_of_mem _ List.mem_cons_self, htarget⟩

/-- **Looser settings can lose every report**: with the folder back in, its manifest, which is
nested too deep, breaks the scan off. -/
theorem broken_off_by_looser :
    (ofAnySize unparsed).LooserThan withoutDeep ∧
      (files (besideFolder (brackets 50000)) withoutDeep ⟨"", []⟩).1 =
        .ok { files := [drawnAt 1 "a.js"], filesScanned := 1 } ∧
      ¬ ∃ r', (files (besideFolder (brackets 50000)) (ofAnySize unparsed) ⟨"", []⟩).1 = .ok r' :=
  ⟨⟨⟨by decide, id, List.Subset.refl _, .inl (by decide)⟩, rfl, rfl⟩, files_withoutDeep _,
    not_exists_files_of_brackets (by decide) (resolve_besideFolder _) (mem_targets_besideFolder _)
      (by decide) (find?_besideFolder _).2⟩

end Scan

end Advisor
