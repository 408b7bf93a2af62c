import Advisor.Proofs.ListingOrder
import Advisor.Proofs.Tally

/-!
# Names in reports

A report calls a file by its real place, counted from the folder that the scan starts from; a file
that lies elsewhere is called by the path of the link that leads to it. Written names can be read
again (`ofString_toString`), so two reports bear one name exactly if they are about one file that
lies in the folder. This happens when such a file is opened by its own name and through a link, or
through two links: `paths_nodup_iff` says that nothing else stands in the way of distinct names, and
`linked_file_reported_twice` shows a file that is reported and counted twice.
-/

namespace Advisor

/-! ## Written path names -/

namespace PathName

/-- **A name that a written path shows as it is**: neither nothing nor a single dot, and without a
slash. File systems give no other names to their entries. -/
def IsProper (name : String) : Prop := name ≠ "" ∧ name ≠ "." ∧ '/' ∉ name.toList

instance : DecidablePred IsProper := fun name =>
  inferInstanceAs (Decidable (name ≠ "" ∧ name ≠ "." ∧ '/' ∉ name.toList))

variable {names : List String}

theorem toList_body (names : List String) :
    ("/".intercalate names).toList = ['/'].intercalate (names.map String.toList) :=
  String.toList_intercalate

/-- The names between the slashes are those that were put there. -/
theorem namesOf_body (hproper : ∀ n ∈ names, IsProper n) :
    namesOf ("/".intercalate names).toList = names := by
  cases names with
  | nil => rfl
  | cons n rest =>
    have hslash : ∀ cs ∈ (n :: rest).map String.toList, '/' ∉ cs := by
      intro cs hcs
      obtain ⟨m, hm, rfl⟩ := List.mem_map.mp hcs
      exact (hproper m hm).2.2
    have hkept : ∀ cs ∈ (n :: rest).map String.toList,
        (!cs.isEmpty && cs != ['.']) = true := by
      intro cs hcs
      obtain ⟨m, hm, rfl⟩ := List.mem_map.mp hcs
      obtain ⟨hempty, hdot, -⟩ := hproper m hm
      have hdot' : m.toList ≠ ['.'] := fun h => hdot (String.toList_inj.mp h)
      simp [hempty, hdot']
    rw [namesOf, toList_body, Text.splitOn_eq_list_splitOn,
      List.splitOn_intercalate '/' hslash (by simp), List.filter_eq_self.mpr hkept, List.map_map]
    simp [Function.comp_def]

/-- No slash stands in front of the first name. -/
theorem takeWhile_body (hproper : ∀ n ∈ names, IsProper n) :
    ("/".intercalate names).toList.takeWhile (· == '/') = [] := by
  rw [toList_body]
  cases names with
  | nil => rfl
  | cons n rest =>
    obtain ⟨hempty, -, hslash⟩ := hproper n List.mem_cons_self
    have hne : n.toList ≠ [] := fun h => hempty (String.toList_eq_nil_iff.mp h)
    obtain ⟨c, cs, hcs⟩ := List.exists_cons_of_ne_nil hne
    have hc : (c == '/') = false := by
      rw [hcs, List.mem_cons, not_or] at hslash
      exact beq_false_of_ne (Ne.symm hslash.1)
    cases rest with
    | nil => simp [hcs, hc]
    | cons m rest => simp [hcs, hc, List.intercalate_cons_cons]

/-- **A path name that is written is read again**, if it is built of proper names. -/
theorem ofString_toString {p : PathName} (hroot : p.root = "" ∨ p.root = "/")
    (hproper : ∀ n ∈ p.names, IsProper n) : ofString p.toString = p := by
  obtain ⟨root, names⟩ := p
  have hnames := namesOf_body hproper
  have hfront := takeWhile_body hproper
  rcases hroot with rfl | rfl
  · cases names with
    | nil => rfl
    | cons n rest =>
      have htext : toString ⟨"", n :: rest⟩ = "/".intercalate (n :: rest) := by simp [toString]
      rw [ofString, htext]
      simp only [hnames, hfront]
      rfl
  · have htext : (toString ⟨"/", names⟩).toList = '/' :: ("/".intercalate names).toList := by
      simp [toString]
    have hsplit : namesOf ('/' :: ("/".intercalate names).toList) = names := by
      rw [namesOf, Text.splitOn_cons, if_pos rfl]
      exact hnames
    rw [ofString, htext]
    simp only [hsplit, List.takeWhile_cons, beq_self_eq_true, if_true, hfront]
    rfl

end PathName

namespace FileTree

/-- All names in a tree are proper. -/
inductive ProperlyNamed : FileTree → Prop
  | file (bytes : ByteArray) (fault : Option String) : ProperlyNamed (.file bytes fault)
  | folder {entries : List (String × FileTree)} : (∀ e ∈ entries, PathName.IsProper e.1) →
      (∀ e ∈ entries, ProperlyNamed e.2) → ProperlyNamed (.folder entries)
  | link (target : String) : ProperlyNamed (.link target)

/-- The way to whatever stands in such a tree is made of proper names. -/
theorem ProperlyNamed.of_at? {t u : FileTree} {p : List String} (h : t.ProperlyNamed)
    (hu : t.at? p = some u) : ∀ n ∈ p, PathName.IsProper n := by
  induction p generalizing t with
  | nil => simp
  | cons n rest ih =>
    rw [at?_cons, Option.bind_eq_some_iff] at hu
    obtain ⟨child, hchild, hu⟩ := hu
    obtain ⟨entries, rfl, hmem⟩ := exists_mem_of_at? hchild
    cases h with
    | folder hnames hbelow =>
      exact List.forall_mem_cons.mpr ⟨hnames _ hmem, ih (hbelow _ hmem) hu⟩

end FileTree

/-! ## Where paths lead -/

namespace World

open FileTree

variable {w : World} {place steps real : List String} {t : FileTree}

/-- What a path leads to stands at its real place. -/
theorem at?_of_walk {links : Nat} (h : w.walk links place steps = some (real, t)) :
    w.tree.at? real = some t := by
  fun_induction walk w links place steps with
  | case1 links place =>
    obtain ⟨u, hu, heq⟩ := Option.map_eq_some_iff.mp h
    cases heq
    exact hu
  | case2 links place n rest entries hat hback ih => exact ih h
  | case3 links place n rest entries hat hback hn => cases h
  | case4 place n rest entries hat hback target hn => cases h
  | case5 place n rest entries hat hback target hn links path ih => exact ih h
  | case6 links place n rest entries hat hback u hlink hn ih => exact ih h
  | case7 links place n rest hno => cases h

/-- **A path that leads somewhere has this for its real place.** More links may be replaced in a
path than are followed on the way to a file. -/
theorem resolveFrom_of_walk {links : Nat} (h : w.walk links place steps = some (real, t)) :
    ∀ more, links ≤ more → w.resolveFrom more place steps = .ok real := by
  have hentry : ∀ {q : List String} {entries : List (String × FileTree)} {n : String},
      w.tree.at? q = some (.folder entries) → w.tree.at? (q ++ [n]) = entries.lookup n := by
    intro q entries n hq
    rw [at?_append, hq, Option.bind_some, at?_folder]
  fun_induction walk w links place steps with
  | case1 links place =>
    intro more _
    obtain ⟨u, -, heq⟩ := Option.map_eq_some_iff.mp h
    cases heq
    rw [resolveFrom]
  | case2 links place n rest entries hat hback ih =>
    intro more hmore
    rw [resolveFrom, if_pos hback]
    exact ih h more hmore
  | case3 links place n rest entries hat hback hn => cases h
  | case4 place n rest entries hat hback target hn => cases h
  | case5 place n rest entries hat hback target hn links path ih =>
    intro more hmore
    obtain ⟨more, rfl⟩ : ∃ fewer, more = fewer + 1 := ⟨more - 1, by omega⟩
    rw [resolveFrom, if_neg hback]
    simp only [hentry hat, hn]
    exact ih h more (by omega)
  | case6 links place n rest entries hat hback u hlink hn ih =>
    intro more hmore
    rw [resolveFrom, if_neg hback, hentry hat, hn]
    cases u with
    | link target => exact absurd rfl (hlink target)
    | file bytes fault => exact ih h more hmore
    | folder sub => exact ih h more hmore
  | case7 links place n rest hno => cases h

theorem resolve_of_find? {p : PathName} (h : w.find? p = some (real, t)) : w.resolve p = .ok real :=
  resolveFrom_of_walk h maxReplacements (by decide)

end World

/-! ## The names of opened files -/

namespace Scan

open FileTree Selection

variable {w : World} {s : ScanSettings} {root : PathName}
variable {base place real real' p p' : List String} {t t' : FileTree}

/-- The name in a report of a file that is opened at `p` and really stands at `real`. -/
def nameFrom (base p real : List String) : PathName :=
  match base.isPrefixOf? real with
  | some below => ⟨"", below⟩
  | none => pathOf p

theorem reportedPath_of_find? (h : w.find? (pathOf p) = some (real, t)) :
    reportedPath w base p = (nameFrom base p real).toString := by
  simp only [reportedPath, World.resolve_of_find? h, nameFrom]
  cases base.isPrefixOf? real <;> rfl

theorem nameFrom_of_inside (h : base <+: real) :
    ∃ below, real = base ++ below ∧ nameFrom base p real = ⟨"", below⟩ := by
  obtain ⟨below, rfl⟩ := h
  refine ⟨below, rfl, ?_⟩
  rw [nameFrom, List.isPrefixOf?_eq_some_iff_append_eq.mpr rfl]

theorem nameFrom_of_outside (h : ¬ base <+: real) : nameFrom base p real = pathOf p := by
  rw [nameFrom]
  cases hbelow : base.isPrefixOf? real with
  | none => rfl
  | some below => exact absurd ⟨below, List.isPrefixOf?_eq_some_iff_append_eq.mp hbelow⟩ h

/-- **When two files have one name**: if they are one file in or below the base, or if both lie
elsewhere and were opened at one place. -/
theorem nameFrom_eq_iff :
    nameFrom base p real = nameFrom base p' real' ↔
      (base <+: real ∧ real = real') ∨ (¬ base <+: real ∧ ¬ base <+: real' ∧ p = p') := by
  have hroot : ∀ (q below : List String), (⟨"", below⟩ : PathName) ≠ pathOf q := by
    intro q below h
    exact absurd (congrArg PathName.root h) (by simp [pathOf])
  by_cases hin : base <+: real <;> by_cases hin' : base <+: real'
  · obtain ⟨below, rfl, hname⟩ := nameFrom_of_inside (p := p) hin
    obtain ⟨below', rfl, hname'⟩ := nameFrom_of_inside (p := p') hin'
    simp [hname, hname']
  · obtain ⟨below, rfl, hname⟩ := nameFrom_of_inside (p := p) hin
    rw [hname, nameFrom_of_outside hin']
    refine iff_of_false (hroot p' below) ?_
    rintro (⟨-, rfl⟩ | ⟨hout, -⟩)
    · exact hin' hin
    · exact hout hin
  · obtain ⟨below', rfl, hname'⟩ := nameFrom_of_inside (p := p') hin'
    rw [hname', nameFrom_of_outside hin]
    refine iff_of_false (hroot p below').symm ?_
    rintro (⟨h, -⟩ | ⟨-, hout, -⟩)
    · exact hin h
    · exact hout hin'
  · rw [nameFrom_of_outside hin, nameFrom_of_outside hin']
    simp [hin, hin', pathOf]

theorem nameFrom_readable (base : List String) (hproper : w.tree.ProperlyNamed)
    (hp : w.tree.at? p = some t) (hreal : w.tree.at? real = some t') :
    PathName.ofString (nameFrom base p real).toString = nameFrom base p real := by
  by_cases hin : base <+: real
  · obtain ⟨below, rfl, hname⟩ := nameFrom_of_inside (p := p) hin
    rw [hname]
    refine PathName.ofString_toString (.inl rfl) fun n hn => ?_
    exact hproper.of_at? hreal n (List.mem_append_right base hn)
  · rw [nameFrom_of_outside hin]
    exact PathName.ofString_toString (.inr rfl) (hproper.of_at? hp)

/-- Two places lead to one file, which stands in or below the base. -/
def Meet (w : World) (base p p' : List String) : Prop :=
  ∃ real t, base <+: real ∧ w.find? (pathOf p) = some (real, t) ∧
    w.find? (pathOf p') = some (real, t)

/-- The walk comes only to what is there. -/
theorem exists_at?_of_mem_candidatesOf (hnamed : w.tree.WellNamed) {s : Selection}
    (hp : p ∈ (candidatesOf w s place).1) : ∃ u, w.tree.at? p = some u := by
  rw [candidatesOf] at hp
  cases hat : w.tree.at? place with
  | none =>
    rw [hat] at hp
    cases hp
  | some t =>
    rw [hat] at hp
    have hwalked : p ∈ s.candidates w place t → ∃ u, w.tree.at? p = some u := by
      intro hmem
      obtain ⟨-, -, u, -, hu, -⟩ := (entry_of_mem_candidates hmem).exists_at? hnamed hat
      exact ⟨u, hu⟩
    cases t with
    | file bytes fault =>
      obtain rfl := List.mem_singleton.mp hp
      exact ⟨_, hat⟩
    | folder entries => exact hwalked hp
    | link target => exact hwalked hp

/-- **When two opened files bear one name.** -/
theorem reportedPath_eq_iff (hnamed : w.tree.WellNamed) (hproper : w.tree.ProperlyNamed)
    {c c' : List String × String} (hc : c ∈ targets w s place) (hc' : c' ∈ targets w s place) :
    reportedPath w base c.1 = reportedPath w base c'.1 ↔ c = c' ∨ Meet w base c.1 c'.1 := by
  have hopened : ∀ d ∈ targets w s place, kindOf? s d.1 = some d.2 ∧
      (∃ u, w.tree.at? d.1 = some u) ∧ ∃ real t, w.find? (pathOf d.1) = some (real, t) := by
    intro d hd
    obtain ⟨q, hq, ht⟩ := exists_target?_of_mem_targets hd
    obtain ⟨rfl, hacc, hkind⟩ := target?_eq_some_iff.mp ht
    obtain ⟨-, real, bytes, fault, hfind, -⟩ := judge_eq_accepted_iff.mp hacc
    exact ⟨hkind, exists_at?_of_mem_candidatesOf hnamed hq, real, _, hfind⟩
  obtain ⟨hkind, ⟨u, hu⟩, real, t, hfind⟩ := hopened c hc
  obtain ⟨hkind', ⟨u', hu'⟩, real', t', hfind'⟩ := hopened c' hc'
  have hread := nameFrom_readable base hproper hu (World.at?_of_walk hfind)
  have hread' := nameFrom_readable base hproper hu' (World.at?_of_walk hfind')
  have hsame : c.1 = c'.1 → c = c' := by
    intro h
    rw [h, hkind'] at hkind
    exact Prod.ext h (Option.some.inj hkind).symm
  rw [reportedPath_of_find? hfind, reportedPath_of_find? hfind']
  constructor
  · intro h
    have hname := congrArg PathName.ofString h
    rw [hread, hread', nameFrom_eq_iff] at hname
    rcases hname with ⟨hin, rfl⟩ | ⟨-, -, hplace⟩
    · have htree := World.at?_of_walk hfind
      rw [World.at?_of_walk hfind'] at htree
      obtain rfl := Option.some.inj htree
      exact .inr ⟨real, _, hin, hfind, hfind'⟩
    · exact .inl (hsame hplace)
  · rintro (rfl | ⟨common, u, hin, hmeet, hmeet'⟩)
    · rw [hfind] at hfind'
      cases hfind'
      rfl
    · rw [hfind] at hmeet
      rw [hfind'] at hmeet'
      cases hmeet
      cases hmeet'
      exact congrArg PathName.toString (nameFrom_eq_iff.mpr (.inl ⟨hin, rfl⟩))

end Scan

/-! ## Counting files -/

namespace ScanResult

/-- The reports that have findings. -/
def withFindings (r : ScanResult) : List FileReport := r.files.filter fun x => !x.findings.isEmpty

theorem mem_paths_iff {r : ScanResult} {path : String} :
    path ∈ r.findings.map (·.1) ↔ path ∈ r.withFindings.map (·.path) := by
  simp only [findings, withFindings, List.mem_map, List.mem_flatMap, List.mem_filter,
    Bool.not_eq_true', List.isEmpty_eq_false_iff_exists_mem]
  constructor
  · rintro ⟨-, ⟨x, hx, f, hf, rfl⟩, rfl⟩
    exact ⟨x, ⟨hx, f, hf⟩, rfl⟩
  · rintro ⟨x, ⟨hx, f, hf⟩, rfl⟩
    exact ⟨(x.path, f), ⟨x, hx, f, hf, rfl⟩, rfl⟩

/-- **How many files with findings a report counts**: no more than have findings, and fewer if two
of them bear one name. -/
theorem exists_filesWithFindings (r : ScanResult) :
    ∃ n : Nat, (Report.plain r).member? "files_with_findings" = some (.int n) ∧
      n ≤ r.withFindings.length ∧
      (n = r.withFindings.length ↔ (r.withFindings.map (·.path)).Nodup) := by
  have hperm := Text.distinct_perm_dedup (fun _ => mem_paths_iff (r := r))
  have hsub := List.dedup_sublist (r.withFindings.map (·.path))
  have hlength : (r.withFindings.map (·.path)).length = r.withFindings.length := List.length_map ..
  refine ⟨(Text.distinct (r.findings.map (·.1))).length, rfl, ?_, ?_⟩
  · rw [hperm.length_eq, ← hlength]
    exact hsub.length_le
  · rw [hperm.length_eq, ← hlength, ← List.dedup_eq_self]
    exact ⟨hsub.eq_of_length, fun h => congrArg List.length h⟩

end ScanResult

namespace Scan

open FileTree Selection

variable {w : World} {s : ScanSettings} {root : PathName} {place : List String}

/-- **What stands in the way of distinct names.** The reports of a scan have pairwise distinct paths
exactly if no two of the files that it opens are one file in or below the base. The number of files
with findings in the plain report is at most that of the reports that have some, and the two agree
exactly if these reports have pairwise distinct paths. -/
theorem paths_nodup_iff {r : ScanResult} (hnamed : w.tree.WellNamed)
    (hproper : w.tree.ProperlyNamed) (hroot : w.resolve root = .ok place)
    (h : (files w s root).1 = .ok r) :
    ((r.files.map (·.path)).Nodup ↔
      ∀ c ∈ targets w s place, ∀ c' ∈ targets w s place,
        Meet w (candidatesOf w s.selection place).2 c.1 c'.1 → c = c') ∧
    ∃ n : Nat, (Report.plain r).member? "files_with_findings" = some (.int n) ∧
      n ≤ r.withFindings.length ∧
      (n = r.withFindings.length ↔ (r.withFindings.map (·.path)).Nodup) := by
  have hnodup : (targets w s place).Nodup :=
    .of_map Prod.fst (nodup_of_precedes (pairwise_precedes_targets hnamed))
  have hpaths : r.files.map (·.path) =
      (targets w s place).map fun c => reportedPath w (candidatesOf w s.selection place).2 c.1 := by
    have hboth := congrArg (List.map Prod.fst) (paths_and_kinds_of_files hroot h)
    rwa [List.map_map, List.map_map] at hboth
  refine ⟨?_, r.exists_filesWithFindings⟩
  rw [hpaths, List.nodup_map_iff_inj_on hnodup]
  refine forall₂_congr fun c hc => forall₂_congr fun c' hc' => ?_
  rw [reportedPath_eq_iff hnamed hproper hc hc', or_imp, and_iff_right id]

/-- Two links in a folder to one file that cannot be read and lies outside. -/
def linkedOut : World :=
  ⟨.folder [("app", .folder [("a.js", .link "../x.js"), ("b.js", .link "../x.js")]),
    ("x.js", .file ByteArray.empty (some "denied"))], [], .usual⟩

theorem wellNamed_linkedOut : linkedOut.tree.WellNamed := by
  refine .folder (by decide) ?_
  simp only [List.forall_mem_cons, List.not_mem_nil, false_imp_iff, implies_true, and_true]
  refine ⟨.folder (by decide) ?_, .file _ _⟩
  simp only [List.forall_mem_cons, List.not_mem_nil, false_imp_iff, implies_true, and_true]
  exact ⟨.link _, .link _⟩

theorem properlyNamed_linkedOut : linkedOut.tree.ProperlyNamed := by
  refine .folder (by decide) ?_
  simp only [List.forall_mem_cons, List.not_mem_nil, false_imp_iff, implies_true, and_true]
  refine ⟨.folder (by decide) ?_, .file _ _⟩
  simp only [List.forall_mem_cons, List.not_mem_nil, false_imp_iff, implies_true, and_true]
  exact ⟨.link _, .link _⟩

/-- Seen from the folder, the links keep names of their own. -/
theorem paths_nodup_linkedOut :
    linkedOut.tree.WellNamed ∧ linkedOut.tree.ProperlyNamed ∧
      linkedOut.resolve ⟨"", ["app"]⟩ = .ok ["app"] ∧
      ∃ r, (files linkedOut (filteredBy .everything) ⟨"", ["app"]⟩).1 = .ok r ∧
        r.filesScanned = 2 ∧ (r.files.map (·.path)).Nodup := by
  have hnamed := wellNamed_linkedOut
  have hproper := properlyNamed_linkedOut
  have hroot : linkedOut.resolve ⟨"", ["app"]⟩ = .ok ["app"] := by cbv
  have hwalk : candidatesOf linkedOut writtenCode ["app"] =
      ([["app", "a.js"], ["app", "b.js"]], ["app"]) := by cbv
  have hfind : ∀ p ∈ [["app", "a.js"], ["app", "b.js"]],
      linkedOut.find? (pathOf p) = some (["x.js"], .file ByteArray.empty (some "denied")) := by
    simp only [List.forall_mem_cons, List.not_mem_nil, false_imp_iff, implies_true, and_true]
    constructor <;> cbv
  obtain ⟨htargets, hfiles⟩ := files_of_unreadable hroot hwalk (by decide) .everything
    fun p hp => ⟨_, hfind p hp⟩
  refine ⟨hnamed, hproper, hroot, _, hfiles, rfl, ?_⟩
  refine (paths_nodup_iff hnamed hproper hroot hfiles).1.mpr ?_
  rintro c hc c' - ⟨real, t, hin, hmeet, -⟩
  rw [htargets] at hc
  obtain ⟨p, hp, rfl⟩ := List.mem_map.mp hc
  -- the file is not in the folder
  rw [hfind p hp] at hmeet
  cases hmeet
  have hbase : (candidatesOf linkedOut (filteredBy .everything).selection ["app"]).2 = ["app"] :=
    congrArg Prod.snd hwalk
  rw [hbase] at hin
  exact absurd hin (by decide)

/-- A file that cannot be read, and a link to it. -/
def linked : World :=
  ⟨.folder [("a.js", .file ByteArray.empty (some "denied")), ("b.js", .link "a.js")], [], .usual⟩

/-- **One file, two reports**: they bear the same name, have the same finding each, and are counted
as one file with findings. -/
theorem linked_file_reported_twice :
    ∃ r, (files linked (filteredBy .everything) ⟨"", []⟩).1 = .ok r ∧
      r.files.map (·.path) = ["a.js", "a.js"] ∧ ¬ (r.files.map (·.path)).Nodup ∧
      (Report.plain r).member? "files_with_findings" = some (.int 1) ∧ r.withFindings.length = 2 := by
  have hroot : linked.resolve ⟨"", []⟩ = .ok [] := by cbv
  have hwalk : candidatesOf linked writtenCode [] = ([["a.js"], ["b.js"]], []) := by cbv
  have hfind : ∀ p ∈ [["a.js"], ["b.js"]],
      linked.find? (pathOf p) = some (["a.js"], .file ByteArray.empty (some "denied")) := by
    simp only [List.forall_mem_cons, List.not_mem_nil, false_imp_iff, implies_true, and_true]
    constructor <;> cbv
  have hnames : [["a.js"], ["b.js"]].map (reportedPath linked []) = ["a.js", "a.js"] := by cbv
  obtain ⟨-, hfiles⟩ := files_of_unreadable hroot hwalk (by decide) .everything
    fun p hp => ⟨_, hfind p hp⟩
  have hreports : [["a.js"], ["b.js"]].map
      (fun p => unreadable (reportedPath linked [] p) "code" "denied") =
        ["a.js", "a.js"].map fun path => unreadable path "code" "denied" := by
    rw [← hnames, List.map_map]
    rfl
  rw [hreports] at hfiles
  exact ⟨_, hfiles, rfl, by decide, by cbv, rfl⟩

end Scan

end Advisor
