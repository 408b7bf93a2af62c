import Advisor.Proofs.FolderScan

/-!
# Where a folder stands

A scan looks at all the names on the way to a file, those above the folder that it starts from
among them. For a folder without links, `files_eq_files_iff` says what this comes to: a name at or
above the folder can hide all of it and has no other effect. `folder_hidden_by_parent` shows one
folder in two places, with its file reported from one of them only.
-/

namespace Advisor

/-! ## Trees without links -/

namespace FileTree

/-- A tree without links. No entry is called `..` either, which is a way back and no name. -/
inductive LinkFree : FileTree → Prop
  | file (bytes : ByteArray) (fault : Option String) : LinkFree (.file bytes fault)
  | folder {entries : List (String × FileTree)} : (∀ e ∈ entries, e.1 ≠ "..") →
      (∀ e ∈ entries, LinkFree e.2) → LinkFree (.folder entries)

theorem at?_append (t : FileTree) (p q : List String) :
    t.at? (p ++ q) = (t.at? p).bind (·.at? q) := by
  induction p generalizing t with
  | nil => rfl
  | cons n rest ih =>
    rw [List.cons_append, at?, at?]
    cases t.entry? n with
    | none => rfl
    | some child => exact ih child

theorem at?_cons (t : FileTree) (n : String) (rest : List String) :
    t.at? (n :: rest) = (t.at? [n]).bind (·.at? rest) :=
  at?_append t [n] rest

theorem at?_folder (entries : List (String × FileTree)) (n : String) :
    (folder entries).at? [n] = entries.lookup n := by
  rw [at?, entry?]
  cases entries.lookup n <;> rfl

/-- Only folders have entries. -/
theorem at?_eq_none {t : FileTree} (h : ∀ entries, t ≠ .folder entries) (n : String) :
    t.at? [n] = none := by
  cases t with
  | file bytes fault => rfl
  | folder entries => exact absurd rfl (h entries)
  | link target => rfl

/-- Nothing stands below a link but the link itself. -/
theorem eq_of_at?_link {target : String} {names : List String} {t : FileTree}
    (h : (link target).at? names = some t) : t = link target := by
  cases names with
  | nil => exact (Option.some.inj h).symm
  | cons n rest =>
    rw [at?_cons] at h
    cases h

theorem mem_of_at? {entries : List (String × FileTree)} {n : String} {t : FileTree}
    (h : (folder entries).at? [n] = some t) : (n, t) ∈ entries := by
  rw [at?_folder] at h
  obtain ⟨front, back, rfl, -⟩ := List.lookup_eq_some_iff.mp h
  simp

namespace LinkFree

variable {t u : FileTree} {names : List String}

theorem at? (h : t.LinkFree) (hu : t.at? names = some u) : u.LinkFree := by
  induction names generalizing t with
  | nil =>
    cases hu
    exact h
  | cons n rest ih =>
    rw [at?_cons, Option.bind_eq_some_iff] at hu
    obtain ⟨child, hchild, hu⟩ := hu
    cases h with
    | file bytes fault => cases hchild
    | folder _ hentries => exact ih (hentries _ (mem_of_at? hchild)) hu

theorem not_link (h : t.LinkFree) (target : String) : t ≠ .link target := by
  rintro rfl
  cases h

end LinkFree

end FileTree

/-! ## Paths to real places -/

namespace World

open FileTree Selection

variable {w : World} {place steps names : List String} {t : FileTree}

/-- The way from `place` along some names meets no link and does not turn back. -/
structure Clear (w : World) (place steps : List String) : Prop where
  forward : ".." ∉ steps
  noLink : ∀ front, front <+: steps → front ≠ [] → ∀ target,
    w.tree.at? (place ++ front) ≠ some (.link target)

theorem Clear.tail {n : String} (h : w.Clear place (n :: steps)) :
    w.Clear (place ++ [n]) steps where
  forward := fun hmem => h.forward (List.mem_cons_of_mem n hmem)
  noLink front hfront _ target := by
    rw [List.append_assoc]
    exact h.noLink (n :: front) (List.cons_prefix_cons.mpr ⟨rfl, hfront⟩) (by simp) target

theorem Clear.head {n : String} (h : w.Clear place (n :: steps)) :
    n ≠ ".." ∧ ∀ target, w.tree.at? (place ++ [n]) ≠ some (.link target) := by
  refine ⟨?_, h.noLink [n] (by simp) (by simp)⟩
  rintro rfl
  exact h.forward List.mem_cons_self

theorem resolveFrom_of_clear {links : Nat} (h : w.Clear place steps) :
    w.resolveFrom links place steps = .ok (place ++ steps) := by
  induction steps generalizing place with
  | nil => simp [resolveFrom]
  | cons n rest ih =>
    obtain ⟨hn, hlink⟩ := h.head
    have hrest := ih h.tail
    rw [List.append_assoc, List.singleton_append] at hrest
    rw [resolveFrom, if_neg (by simpa using hn)]
    split
    · exact absurd ‹_› (hlink _)
    · exact hrest

theorem walk_of_clear {links : Nat} (h : w.Clear place steps) :
    w.walk links place steps = (w.tree.at? (place ++ steps)).map (place ++ steps, ·) := by
  induction steps generalizing place with
  | nil => simp [walk]
  | cons n rest ih =>
    obtain ⟨hn, hlink⟩ := h.head
    have hrest := ih h.tail
    rw [List.append_assoc, List.singleton_append] at hrest
    rw [walk]
    split
    · rename_i entries hat
      rw [if_neg (by simpa using hn)]
      split
      · rename_i hnone
        rw [at?_append, hat, Option.bind_some, at?_cons, at?_folder, hnone]
        rfl
      · rename_i target hsome
        refine absurd ?_ (hlink target)
        rw [at?_append, hat, Option.bind_some, at?_folder, hsome]
      · exact hrest
    · rename_i hno
      rw [at?_append]
      cases hat : w.tree.at? place with
      | none => rfl
      | some t =>
        have hnone := at?_eq_none (t := t) (fun entries he => hno entries (he ▸ hat)) n
        rw [Option.bind_some, at?_cons, hnone]
        rfl

/-- **A clear way ends where it leads**, for both ways to follow it. -/
theorem resolve_and_find?_of_clear (h : w.Clear [] place) :
    w.resolve (pathOf place) = .ok place ∧
      w.find? (pathOf place) = (w.tree.at? place).map (place, ·) := by
  exact ⟨resolveFrom_of_clear h, walk_of_clear h⟩

/-- A tree without links leaves the ways into it clear. -/
theorem clear_append (hplace : ".." ∉ place) (hat : w.tree.at? place = some t) (ht : t.LinkFree)
    (hnames : ".." ∉ names) : w.Clear [] (place ++ names) where
  forward := by simp [hplace, hnames]
  noLink front hfront _ target := by
    rw [List.nil_append]
    intro hlink
    rcases List.prefix_or_prefix_of_prefix hfront (List.prefix_append place names) with h | h
    · obtain ⟨back, rfl⟩ := h
      rw [at?_append, hlink] at hat
      exact ht.not_link target (eq_of_at?_link hat)
    · obtain ⟨below, rfl⟩ := h
      rw [at?_append, hat] at hlink
      exact (ht.at? hlink).not_link target rfl

/-- Real places have no way back in them, if the one that paths start from has none. -/
theorem not_mem_of_resolveFrom {links : Nat} {real : List String} (hplace : ".." ∉ place)
    (h : w.resolveFrom links place steps = .ok real) : ".." ∉ real := by
  fun_induction resolveFrom w links place steps with
  | case1 links place =>
    cases h
    exact hplace
  | case2 links place n rest hn ih => exact ih (fun hmem => hplace (List.dropLast_subset _ hmem)) h
  | case3 place n rest hn target hat => cases h
  | case4 place n rest hn target hat links t ih =>
    refine ih ?_ h
    split
    · simp
    · exact hplace
  | case5 links place n rest hn hat ih =>
    refine ih ?_ h
    have : n ≠ ".." := by simpa using hn
    simp [hplace, this.symm]

theorem not_mem_of_resolve {p : PathName} (hhere : ".." ∉ w.here) (h : w.resolve p = .ok place) :
    ".." ∉ place := by
  refine not_mem_of_resolveFrom ?_ h
  split
  · simp
  · exact hhere

end World

/-! ## What the names above a place decide -/

namespace Selection

variable {s : Selection} {place names : List String}

/-- A name on the way to a place speaks against all that lies below it: it is excluded, or it is
that of a folder of generated files where these are skipped. -/
def Hidden (s : Selection) (place : List String) : Prop :=
  (∃ name ∈ (pathOf place).parts, name ∈ s.excludes) ∨
    (s.skipGenerated = true ∧ ∃ name ∈ (pathOf place).parts, name ∈ generatedFolders)

theorem not_hidden_iff :
    ¬ s.Hidden place ↔ excluded s.excludes (pathOf place).parts = false ∧
      (s.skipGenerated = true → (pathOf place).parts.any generatedFolders.contains = false) := by
  simp only [Hidden, not_or, not_and, not_exists, Scan.excluded_eq_false_iff, List.any_eq_false,
    List.contains_iff_mem]

theorem excluded_parts_append (excludes place names : List String) :
    excluded excludes (pathOf (place ++ names)).parts =
      (excluded excludes (pathOf place).parts || excluded excludes (pathOf names).parts) := by
  have hparts : (pathOf (place ++ names)).parts = "/" :: (place ++ names) := rfl
  have hplace : (pathOf place).parts = "/" :: place := rfl
  have hnames : (pathOf names).parts = "/" :: names := rfl
  rw [Bool.eq_iff_iff, hparts, hplace, hnames]
  simp only [excluded, Bool.or_eq_true, List.any_eq_true, List.contains_iff_mem, List.mem_cons,
    List.mem_append, ← exists_or, ← and_or_left]
  exact exists_congr fun _ => and_congr_right fun _ => or_or_distrib_left

theorem name_pathOf_append (hnames : names ≠ []) :
    (pathOf (place ++ names)).name = (pathOf names).name := by
  rw [PathName.name, PathName.name, pathOf, pathOf, List.getLast?_append_of_ne_nil _ hnames]

theorem isGenerated_append (hnames : names ≠ []) :
    isGenerated (pathOf (place ++ names)) =
      ((pathOf place).parts.any generatedFolders.contains || isGenerated (pathOf names)) := by
  have hparts : (pathOf (place ++ names)).parts = (pathOf place).parts ++ names := rfl
  have hnames' : (pathOf names).parts = "/" :: names := rfl
  have htop : generatedFolders.contains "/" = false := by decide
  rw [isGenerated_eq, isGenerated_eq, bearsGeneratedName, bearsGeneratedName,
    name_pathOf_append hnames, hparts, hnames', List.any_append, List.any_cons, htop,
    Bool.false_or, Bool.or_assoc]

theorem suffix_pathOf_append (hnames : names ≠ []) :
    (pathOf (place ++ names)).suffix = (pathOf names).suffix := by
  rw [PathName.suffix, PathName.suffix, name_pathOf_append hnames]

/-- Where nothing above is in the way, a place is generated if it would be so on its own. -/
theorem skipGenerated_append (hplace : ¬ s.Hidden place) (hnames : names ≠ []) :
    (s.skipGenerated && isGenerated (pathOf (place ++ names))) =
      (s.skipGenerated && isGenerated (pathOf names)) := by
  obtain ⟨-, hgen⟩ := not_hidden_iff.mp hplace
  cases hskip : s.skipGenerated with
  | false => rfl
  | true => rw [isGenerated_append hnames, hgen hskip, Bool.false_or]

theorem excluded_append_of_not_hidden (hplace : ¬ s.Hidden place) (names : List String) :
    excluded s.excludes (pathOf (place ++ names)).parts =
      excluded s.excludes (pathOf names).parts := by
  rw [excluded_parts_append, (not_hidden_iff.mp hplace).1, Bool.false_or]

theorem prunes_append (hplace : ¬ s.Hidden place) (hnames : names ≠ []) :
    s.prunes (place ++ names) = s.prunes names := by
  rw [prunes, prunes, excluded_append_of_not_hidden hplace, skipGenerated_append hplace hnames]

theorem passed_append (place root names : List String) :
    passed (place ++ root) names = (passed root names).map (place ++ ·) := by
  fun_induction passed root names with
  | case1 root n m rest ih => rw [passed, List.append_assoc, ih, List.map_cons]
  | case2 root names hnames => rw [passed, List.map_nil]; exact hnames

/-- Where nothing above is in the way, a place is reached if it would be so on its own. -/
theorem reaches_append (hplace : ¬ s.Hidden place) (names : List String) :
    s.reaches place (place ++ names) = s.reaches [] names := by
  have hpassed : passed place names = (passed [] names).map (place ++ ·) := by
    simpa using passed_append place [] names
  rw [reaches, reaches, excluded_append_of_not_hidden hplace, List.drop_left, hpassed, List.all_map,
    List.length_nil, List.drop_zero]
  refine congrArg _ (Bool.eq_iff_iff.mpr ?_)
  rw [List.all_eq_true, List.all_eq_true]
  refine forall₂_congr fun q hq => ?_
  obtain ⟨u, -, hu, -, rfl, -⟩ := mem_passed_iff.mp hq
  rw [Function.comp_apply, prunes_append hplace hu]

/-! ## The whole walk of a tree without links -/

variable {w w' : World} {t : FileTree}

theorem countsAsFolder_of_linkFree (ht : t.LinkFree) (n : String) :
    countsAsFolder w place n t = t.isFolder := by
  cases ht <;> rfl

theorem filesOf_unpruned {entries : List (String × FileTree)}
    (hentries : ∀ e ∈ entries, e.2.LinkFree) :
    filesOf w s.unpruned place entries =
      ((byName entries).filter fun e => !e.2.isFolder).map fun e => place ++ [e.1] := by
  rw [filesOf]
  simp only [unpruned, excluded_nil, Bool.not_false, List.filter_true]
  refine congrArg _ (List.filter_congr fun e he => ?_)
  rw [countsAsFolder_of_linkFree (hentries e (mem_byName_iff.mp he))]

/-- **The whole walk of a tree without links**, wherever the tree stands. -/
theorem candidates_unpruned_append (ht : t.LinkFree) (place q : List String) :
    s.unpruned.candidates w (place ++ q) t = (s.unpruned.candidates w' q t).map (place ++ ·) := by
  induction t generalizing q with
  | file bytes fault => simp only [candidates, List.map_nil]
  | link target => cases ht
  | folder entries ih =>
    cases ht with
    | folder _ hentries =>
      have henters : s.unpruned.enters (place ++ q) = s.unpruned.enters q := by
        funext e
        rw [enters_unpruned, enters_unpruned]
      rw [candidates_folder, candidates_folder, filesOf_unpruned hentries,
        filesOf_unpruned hentries, List.map_append, List.map_flatMap, List.map_map, henters]
      congr 1
      · exact List.map_congr_left fun e _ => List.append_assoc ..
      · refine List.flatMap_congr fun e he => ?_
        have hmem := mem_byName_iff.mp (List.mem_filter.mp he).1
        rw [List.append_assoc, ih e hmem (hentries e hmem)]

/-- What the walk of such a tree lists lies ahead. -/
theorem Entry.exists_forward {p : List String} (ht : t.LinkFree) (h : Entry w place t p) :
    ∃ names, names ≠ [] ∧ ".." ∉ names ∧ p = place ++ names := by
  induction h with
  | @here place entries n t hmem _ =>
    cases ht with
    | folder hnames _ => exact ⟨[n], by simp, by simpa using (hnames _ hmem).symm, rfl⟩
  | @deeper place p entries sub n hmem _ ih =>
    cases ht with
    | folder hnames hentries =>
      obtain ⟨names, -, hforward, rfl⟩ := ih (hentries _ hmem)
      exact ⟨n :: names, by simp, by simpa [hforward] using (hnames _ hmem).symm, by simp⟩

end Selection

/-! ## One folder in two places -/

namespace Scan

open Selection

variable {w w' : World} {s : ScanSettings} {root root' : PathName}
variable {place place' names : List String} {entries : List (String × FileTree)}

/-- **A path leads to a folder without links**, which stands at some place. -/
structure Located (w : World) (root : PathName) (place : List String)
    (entries : List (String × FileTree)) : Prop where
  /-- The folder that paths start from is given by its real place. -/
  forward : ".." ∉ w.here
  resolved : w.resolve root = .ok place
  found : w.tree.at? place = some (.folder entries)
  linkFree : (FileTree.folder entries).LinkFree

/-- On a clear way, a file is called by the names below the base. -/
theorem reportedPath_of_clear (h : w.Clear [] (place ++ names)) :
    reportedPath w place (place ++ names) = PathName.toString ⟨"", names⟩ := by
  have hbelow : place.isPrefixOf? (place ++ names) = some names :=
    List.isPrefixOf?_eq_some_iff_append_eq.mpr rfl
  rw [reportedPath, (World.resolve_and_find?_of_clear h).1]
  simp only [hbelow]

/-- A folder with nothing above it. -/
def alone (entries : List (String × FileTree)) : World :=
  ⟨.folder entries, [], .usual⟩

theorem located_alone (h : (FileTree.folder entries).LinkFree) :
    Located (alone entries) (pathOf []) [] entries where
  forward := List.not_mem_nil
  resolved := by rw [World.resolve, pathOf, World.resolveFrom]; rfl
  found := rfl
  linkFree := h

namespace Located

theorem clear (h : Located w root place entries) (hnames : ".." ∉ names) :
    w.Clear [] (place ++ names) :=
  World.clear_append (World.not_mem_of_resolve h.forward h.resolved) h.found h.linkFree hnames

theorem find? (h : Located w root place entries) (hnames : ".." ∉ names) :
    w.find? (pathOf (place ++ names)) =
      ((FileTree.folder entries).at? names).map (place ++ names, ·) := by
  rw [(World.resolve_and_find?_of_clear (h.clear hnames)).2, FileTree.at?_append, h.found]
  rfl

theorem reportedPath (h : Located w root place entries) (hnames : ".." ∉ names) :
    reportedPath w place (place ++ names) = PathName.toString ⟨"", names⟩ :=
  reportedPath_of_clear (h.clear hnames)

/-- Where nothing above is in the way, a file is judged as it would be on its own. -/
theorem judge (h : Located w root place entries) (hplace : ¬ s.selection.Hidden place)
    (hnames : names ≠ []) (hforward : ".." ∉ names) :
    s.selection.judge w (place ++ names) = s.selection.judge (alone entries) names := by
  have hfind := (located_alone h.linkFree).find? hforward
  rw [List.nil_append] at hfind
  rw [Selection.judge, Selection.judge, skipGenerated_append hplace hnames,
    suffix_pathOf_append hnames, h.find? hforward, hfind]
  cases (FileTree.folder entries).at? names with
  | none => rfl
  | some t => cases t <;> rfl

theorem target? (h : Located w root place entries) (hplace : ¬ s.selection.Hidden place)
    (hnames : names ≠ []) (hforward : ".." ∉ names) :
    target? w s (place ++ names) =
      (Scan.target? (alone entries) s names).map fun c => (place ++ c.1, c.2) := by
  have hkind : kindOf? s (place ++ names) = kindOf? s names := by
    rw [kindOf?, kindOf?, kindOfName?, kindOfName?, suffix_pathOf_append hnames]
  rw [Scan.target?, Scan.target?, h.judge hplace hnames hforward, hkind]
  split
  · rw [Option.map_map]
    rfl
  · rfl

/-- What is said of a file does not depend on the place of its folder. -/
theorem selected (h : Located w root place entries) (hnames : names ≠ []) (hforward : ".." ∉ names)
    (kind : String) :
    (selected w s place (place ++ names) kind).1 =
      (Scan.selected (alone entries) s [] names kind).1 := by
  have hfind := (located_alone h.linkFree).find? hforward
  have hpath := (located_alone h.linkFree).reportedPath hforward
  rw [List.nil_append] at hfind hpath
  rw [Scan.selected, Scan.selected, h.reportedPath hforward, hpath, h.find? hforward, hfind,
    suffix_pathOf_append hnames]
  cases (FileTree.folder entries).at? names with
  | none => rfl
  | some t =>
    cases t with
    | folder sub => rfl
    | link target => rfl
    | file bytes fault => cases fault <;> rfl

/-- The files that are opened lie ahead. -/
theorem exists_forward (h : Located w root place entries) {c : List String × String}
    (hc : c ∈ targets w s place) : ∃ names, names ≠ [] ∧ ".." ∉ names ∧ c.1 = place ++ names :=
  ((mem_targets_folder_iff h.found).mp hc).1.exists_forward h.linkFree

/-- **Below a name that speaks against it, nothing is opened.** -/
theorem targets_of_hidden (h : Located w root place entries) (hplace : s.selection.Hidden place) :
    targets w s place = [] := by
  refine List.eq_nil_iff_forall_not_mem.mpr ?_
  rintro ⟨p, kind⟩ hp
  obtain ⟨names, -, -, rfl⟩ := h.exists_forward hp
  obtain ⟨-, hq, -⟩ := (mem_targets_folder_iff h.found).mp hp
  rcases hplace with ⟨name, hname, hex⟩ | ⟨hskip, name, hname, hgen⟩
  · exact hq.notExcluded name (mem_parts_append hname names) hex
  · have hfolders := any_generatedFolders_append names
      (List.any_eq_true.mpr ⟨name, hname, List.contains_iff_mem.mpr hgen⟩)
    have := hq.notGenerated hskip
    rw [isGenerated_eq, hfolders] at this
    cases this

/-- **Elsewhere the files that are opened are those of the folder on its own.** -/
theorem targets_of_not_hidden (h : Located w root place entries)
    (hplace : ¬ s.selection.Hidden place) :
    targets w s place = (targets (alone entries) s []).map fun c => (place ++ c.1, c.2) := by
  have hwalk : s.selection.unpruned.candidates w (place ++ []) (.folder entries) =
      (s.selection.unpruned.candidates (alone entries) [] (.folder entries)).map (place ++ ·) :=
    candidates_unpruned_append h.linkFree place []
  have hreach : s.selection.reaches place ∘ (place ++ ·) = s.selection.reaches [] :=
    funext fun names => reaches_append hplace names
  rw [List.append_nil] at hwalk
  rw [targets_folder h.found, targets_folder (located_alone h.linkFree).found, hwalk,
    List.filter_map, hreach, List.filterMap_map, List.map_filterMap]
  refine List.filterMap_congr fun p hp => ?_
  have hentry := mem_candidates_unpruned_iff.mp (List.mem_filter.mp hp).1
  obtain ⟨names, hnames, hforward, rfl⟩ := hentry.exists_forward h.linkFree
  exact h.target? hplace hnames hforward

theorem files_of_hidden (h : Located w root place entries) (hplace : s.selection.Hidden place) :
    (files w s root).1 = .ok { files := [], filesScanned := 0 } := by
  rw [files_fst, h.resolved]
  simp only [h.targets_of_hidden hplace]
  rfl

theorem files_of_not_hidden (h : Located w root place entries)
    (hplace : ¬ s.selection.Hidden place) :
    (files w s root).1 = (files (alone entries) s (pathOf [])).1 := by
  have halone := located_alone h.linkFree
  have hbase : (candidatesOf w s.selection place).2 = place := by rw [candidatesOf, h.found]
  have hbase' : (candidatesOf (alone entries) s.selection []).2 = [] := by
    rw [candidatesOf, halone.found]
  rw [files_fst, files_fst, h.resolved, halone.resolved]
  simp only [h.targets_of_not_hidden hplace, hbase, hbase', List.mapM_map]
  refine congrArg _ (mapM_congr_of_mem fun c hc => ?_)
  obtain ⟨names, hnames, hforward, hc'⟩ := halone.exists_forward hc
  rw [List.nil_append] at hc'
  rw [Function.comp_apply, hc']
  exact h.selected hnames hforward c.2

end Located

/-- **How far a scan depends on where a folder stands.** A name at or above the folder that is
excluded, or that of a folder of generated files where these are skipped, hides all of it; other
names have no say. So the scans of one folder in two places agree exactly if both places are hidden
or neither is, or if the folder has nothing to report anyway. -/
theorem files_eq_files_iff (h : Located w root place entries)
    (h' : Located w' root' place' entries) :
    (s.selection.Hidden place →
      (files w s root).1 = .ok { files := [], filesScanned := 0 }) ∧
    (¬ s.selection.Hidden place →
      (files w s root).1 = (files (alone entries) s (pathOf [])).1) ∧
    ((files w s root).1 = (files w' s root').1 ↔
      (s.selection.Hidden place ↔ s.selection.Hidden place') ∨
        (files (alone entries) s (pathOf [])).1 = .ok { files := [], filesScanned := 0 }) := by
  refine ⟨h.files_of_hidden, h.files_of_not_hidden, ?_⟩
  by_cases hplace : s.selection.Hidden place <;> by_cases hplace' : s.selection.Hidden place'
  · simp [h.files_of_hidden hplace, h'.files_of_hidden hplace', hplace, hplace']
  · simp [h.files_of_hidden hplace, h'.files_of_not_hidden hplace', hplace, hplace', eq_comm]
  · simp [h.files_of_not_hidden hplace, h'.files_of_hidden hplace', hplace, hplace']
  · simp [h.files_of_not_hidden hplace, h'.files_of_not_hidden hplace', hplace, hplace']

/-- A folder with one file, which cannot be read, two folders down. -/
def lockedUnder (name : String) : World :=
  ⟨.folder [(name, .folder [("app", locked.tree)])], [], .usual⟩

theorem located_lockedUnder (name : String) (hname : name ≠ "..") :
    Located (lockedUnder name) (pathOf [name, "app"]) [name, "app"]
      [("a.js", .file ByteArray.empty (some "denied"))] := by
  have hfound : (lockedUnder name).tree.at? [name, "app"] = some locked.tree := by
    simp [lockedUnder, FileTree.at?, FileTree.entry?, List.lookup]
  have hfree : locked.tree.LinkFree := by
    refine .folder ?_ ?_ <;> rw [List.forall_mem_singleton]
    · decide
    · exact .file _ _
  have hclear : (lockedUnder name).Clear [] ([name, "app"] ++ []) :=
    World.clear_append (by simpa using hname.symm) hfound hfree List.not_mem_nil
  exact ⟨List.not_mem_nil, (World.resolve_and_find?_of_clear hclear).1, hfound, hfree⟩

theorem not_hidden_projects : ¬ writtenCode.Hidden ["projects", "app"] :=
  not_hidden_iff.mpr ⟨by decide, fun _ => by decide⟩

theorem hidden_node_modules : writtenCode.Hidden ["node_modules", "app"] :=
  .inr ⟨rfl, "node_modules", by decide, by decide⟩

/-- Two places whose names have no say. -/
theorem files_eq_files_projects :
    Located (lockedUnder "projects") (pathOf ["projects", "app"]) ["projects", "app"]
        [("a.js", .file ByteArray.empty (some "denied"))] ∧
      Located (lockedUnder "work") (pathOf ["work", "app"]) ["work", "app"]
        [("a.js", .file ByteArray.empty (some "denied"))] ∧
      (files (lockedUnder "projects") (filteredBy .everything) (pathOf ["projects", "app"])).1 =
        (files (lockedUnder "work") (filteredBy .everything) (pathOf ["work", "app"])).1 := by
  have hprojects := located_lockedUnder "projects" (by decide)
  have hwork := located_lockedUnder "work" (by decide)
  have hidden : ¬ writtenCode.Hidden ["work", "app"] :=
    not_hidden_iff.mpr ⟨by decide, fun _ => by decide⟩
  refine ⟨hprojects, hwork, (files_eq_files_iff hprojects hwork).2.2.mpr (.inl ?_)⟩
  exact iff_of_false not_hidden_projects hidden

/-- **One folder, two answers**: below a folder of generated files nothing is said of the file that
is reported elsewhere. -/
theorem folder_hidden_by_parent :
    (files (lockedUnder "projects") (filteredBy .everything) (pathOf ["projects", "app"])).1 =
        .ok { files := [unreadable "a.js" "code" "denied"], filesScanned := 1 } ∧
      (files (lockedUnder "node_modules") (filteredBy .everything)
        (pathOf ["node_modules", "app"])).1 = .ok { files := [], filesScanned := 0 } := by
  have hprojects := located_lockedUnder "projects" (by decide)
  have hmodules := located_lockedUnder "node_modules" (by decide)
  refine ⟨?_, hmodules.files_of_hidden hidden_node_modules⟩
  -- on its own the folder is the one whose scan is known
  have hlocked : Located locked ⟨"", []⟩ [] [("a.js", .file ByteArray.empty (some "denied"))] :=
    ⟨List.not_mem_nil, by cbv, rfl, hprojects.linkFree⟩
  have hopen : ¬ writtenCode.Hidden [] := not_hidden_iff.mpr ⟨by decide, fun _ => by decide⟩
  have halone := hlocked.files_of_not_hidden (s := filteredBy .everything) hopen
  rw [hprojects.files_of_not_hidden not_hidden_projects, ← halone]
  exact files_locked .everything

end Scan

end Advisor
