import Advisor.Scan.Selection
import Mathlib.Data.List.Basic
import Mathlib.Data.String.Basic

/-!
# The walk through a folder

The walk leaves excluded and generated folders out as it comes to them. `candidates_eq_filter` sets
it beside the walk that leaves nothing out: it lists the same places in the same order, less those
that are excluded themselves or lie below a folder that was left out. `mem_candidates_unpruned_iff`
says what the whole walk lists, and `clear_iff` what leaving folders out costs a file that would
pass every test on its own: nothing, unless a folder on the way bears the name of a generated file.
-/

namespace Advisor

/-- Induction over a tree: a folder from its entries. -/
@[elab_as_elim, induction_eliminator]
theorem FileTree.induction_on {P : FileTree → Prop} (file : ∀ bytes fault, P (.file bytes fault))
    (folder : ∀ entries, (∀ e ∈ entries, P e.2) → P (.folder entries))
    (link : ∀ target, P (.link target)) (t : FileTree) : P t :=
  @FileTree.rec P (fun entries => ∀ e ∈ entries, P e.2) (fun e => P e.2) file folder link (by simp)
    (fun _ _ he hrest => List.forall_mem_cons.mpr ⟨he, hrest⟩) (fun _ _ ht => ht) t

namespace Selection

/-! ## Entries by name -/

section ByName

variable {α : Type}

theorem byName_map {β : Type} (f : String × α → β) (l : List (String × α)) :
    byName (l.map fun e => (e.1, f e)) = (byName l).map fun e => (e.1, f e) := by
  rw [byName, byName, List.map_mergeSort]
  intros
  rfl

/-- **One entry more.** It is put between the entries whose names come before its own and those
whose names do not. -/
theorem exists_byName_cons (a : String × α) (l : List (String × α)) :
    ∃ front back, byName (a :: l) = front ++ a :: back ∧ byName l = front ++ back ∧
      (∀ b ∈ front, ¬ a.1 ≤ b.1) ∧ ∀ b ∈ back, a.1 ≤ b.1 := by
  have htrans : ∀ x y z : String × α, decide (x.1 ≤ y.1) = true → decide (y.1 ≤ z.1) = true →
      decide (x.1 ≤ z.1) = true := by
    intro x y z hxy hyz
    rw [decide_eq_true_iff] at hxy hyz ⊢
    exact le_trans hxy hyz
  have htotal : ∀ x y : String × α, (decide (x.1 ≤ y.1) || decide (y.1 ≤ x.1)) = true := by
    intro x y
    rw [Bool.or_eq_true, decide_eq_true_iff, decide_eq_true_iff]
    exact le_total x.1 y.1
  obtain ⟨front, back, hcons, hl, hfront⟩ := List.mergeSort_cons htrans htotal a l
  refine ⟨front, back, hcons, hl, ?_, ?_⟩
  · intro b hb
    have := hfront b hb
    rwa [Bool.not_eq_true', decide_eq_false_iff_not] at this
  · have hsorted := List.pairwise_mergeSort htrans htotal (a :: l)
    rw [hcons, List.pairwise_append, List.pairwise_cons] at hsorted
    exact fun b hb => of_decide_eq_true (hsorted.2.1.1 b hb)

/-- Where the new entry goes depends on the sorted list alone. -/
theorem byName_cons (a : String × α) (l : List (String × α)) :
    byName (a :: l) = (byName l).filter (fun b => ¬ a.1 ≤ b.1) ++
      a :: (byName l).filter (fun b => a.1 ≤ b.1) := by
  obtain ⟨front, back, hcons, hl, hfront, hback⟩ := exists_byName_cons a l
  have hff : front.filter (fun b => ¬ a.1 ≤ b.1) = front :=
    List.filter_eq_self.mpr fun b hb => decide_eq_true (hfront b hb)
  have hfb : front.filter (fun b => a.1 ≤ b.1) = [] :=
    List.filter_eq_nil_iff.mpr fun b hb h => hfront b hb (of_decide_eq_true h)
  have hbf : back.filter (fun b => ¬ a.1 ≤ b.1) = [] :=
    List.filter_eq_nil_iff.mpr fun b hb h => of_decide_eq_true h (hback b hb)
  have hbb : back.filter (fun b => a.1 ≤ b.1) = back :=
    List.filter_eq_self.mpr fun b hb => decide_eq_true (hback b hb)
  rw [hcons, hl, List.filter_append, List.filter_append, hff, hfb, hbf, hbb, List.append_nil,
    List.nil_append]

/-- **Sorting and leaving out commute**, also where a name stands twice. -/
theorem byName_filter (p : String × α → Bool) (l : List (String × α)) :
    byName (l.filter p) = (byName l).filter p := by
  induction l with
  | nil => simp [byName]
  | cons a rest ih =>
    by_cases hp : p a = true
    · rw [List.filter_cons_of_pos hp, byName_cons, ih, byName_cons, List.filter_append,
        List.filter_cons_of_pos hp]
      simp only [List.filter_filter, Bool.and_comm]
    · obtain ⟨front, back, hcons, hl, -⟩ := exists_byName_cons a rest
      rw [List.filter_cons_of_neg hp, ih, hcons, hl, List.filter_append, List.filter_append,
        List.filter_cons_of_neg hp]

theorem mem_byName_iff {l : List (String × α)} {e : String × α} : e ∈ byName l ↔ e ∈ l :=
  List.mem_mergeSort

end ByName

/-! ## The walk, folder by folder -/

variable {w : World} {s : Selection} {place : List String}

/-- Whether the walk enters an entry of a folder. -/
def enters (s : Selection) (place : List String) (e : String × FileTree) : Bool :=
  e.2.isFolder && !s.prunes (place ++ [e.1])

theorem candidatesBelow_eq (w : World) (s : Selection) (place : List String)
    (entries : List (String × FileTree)) :
    candidatesBelow w s place entries =
      (entries.filter (s.enters place)).map
        fun e => (e.1, s.candidates w (place ++ [e.1]) e.2) := by
  induction entries with
  | nil => rfl
  | cons e rest ih =>
    obtain ⟨n, t⟩ := e
    rw [candidatesBelow, ih, List.filter_cons, enters]
    split <;> rfl

/-- **The walk of one folder**: its own files by name, then those of the subfolders that it enters,
by name as well. -/
theorem candidates_folder (w : World) (s : Selection) (place : List String)
    (entries : List (String × FileTree)) :
    s.candidates w place (.folder entries) = filesOf w s place entries ++
      ((byName entries).filter (s.enters place)).flatMap
        fun e => s.candidates w (place ++ [e.1]) e.2 := by
  rw [candidates, candidatesBelow_eq, byName_map, byName_filter, List.map_map, List.flatMap_def]
  rfl

/-! ## What the whole walk lists -/

/-- The selection that leaves nothing out of the walk. -/
def unpruned (s : Selection) : Selection := { s with excludes := [], skipGenerated := false }

theorem excluded_nil (parts : List String) : excluded [] parts = false := rfl

theorem enters_unpruned (place : List String) (e : String × FileTree) :
    s.unpruned.enters place e = e.2.isFolder := by
  simp [enters, prunes, unpruned, excluded_nil]

/-- `Entry w place t p`: at `p`, in or below the folder `t` at `place`, stands something that is
neither a folder nor a link to one, and only real folders are passed on the way. -/
inductive Entry (w : World) : List String → FileTree → List String → Prop
  | here {place : List String} {entries : List (String × FileTree)} {n : String} {t : FileTree} :
      (n, t) ∈ entries → countsAsFolder w place n t = false →
      Entry w place (.folder entries) (place ++ [n])
  | deeper {place p : List String} {entries sub : List (String × FileTree)} {n : String} :
      (n, .folder sub) ∈ entries → Entry w (place ++ [n]) (.folder sub) p →
      Entry w place (.folder entries) p

theorem Entry.exists_names {t : FileTree} {p : List String} (h : Entry w place t p) :
    ∃ n names, p = place ++ n :: names := by
  induction h with
  | @here place entries n t _ _ => exact ⟨n, [], rfl⟩
  | @deeper place p entries sub n _ _ ih =>
    obtain ⟨m, names, rfl⟩ := ih
    exact ⟨n, m :: names, by simp⟩

/-- **The whole walk lists the entries that are no folders**, each of them by its place. -/
theorem mem_candidates_unpruned_iff {t : FileTree} {p : List String} :
    p ∈ s.unpruned.candidates w place t ↔ Entry w place t p := by
  induction t generalizing place with
  | file bytes fault =>
    simp only [candidates, List.not_mem_nil, false_iff]
    intro h
    cases h
  | link target =>
    simp only [candidates, List.not_mem_nil, false_iff]
    intro h
    cases h
  | folder entries ih =>
    simp only [candidates_folder, List.mem_append, List.mem_flatMap, List.mem_filter,
      mem_byName_iff, enters_unpruned]
    constructor
    · rintro (hfile | ⟨⟨n, t⟩, ⟨hmem, hfolder⟩, hp⟩)
      · simp only [filesOf, List.mem_filter, List.mem_map, mem_byName_iff] at hfile
        obtain ⟨⟨⟨n, t⟩, ⟨hmem, hno⟩, rfl⟩, -⟩ := hfile
        exact .here hmem (by simpa using hno)
      · cases t with
        | file bytes fault => simp [FileTree.isFolder] at hfolder
        | link target => simp [FileTree.isFolder] at hfolder
        | folder sub => exact .deeper hmem ((ih _ hmem).mp hp)
    · intro h
      cases h with
      | @here _ _ n t hmem hno =>
        left
        simp only [filesOf, List.mem_filter, List.mem_map, mem_byName_iff]
        exact ⟨⟨(n, t), ⟨hmem, by simp [hno]⟩, rfl⟩, by simp [unpruned, excluded_nil]⟩
      | @deeper _ _ _ sub n hmem hp =>
        exact .inr ⟨(n, .folder sub), ⟨hmem, rfl⟩, (ih _ hmem).mpr hp⟩

/-! ## The walk beside the whole walk -/

/-- The folders that are passed on the way down from `root` along some names, both ends left
out. -/
def passed (root : List String) : List String → List (List String)
  | n :: m :: rest => (root ++ [n]) :: passed (root ++ [n]) (m :: rest)
  | _ => []

/-- The walk that starts at `root` comes to `p` and lists it: nothing on the way is left out, and
`p` itself is not excluded. -/
def reaches (s : Selection) (root p : List String) : Bool :=
  !excluded s.excludes (pathOf p).parts && (passed root (p.drop root.length)).all (!s.prunes ·)

theorem reaches_entry (s : Selection) (root : List String) (n : String) :
    s.reaches root (root ++ [n]) = !excluded s.excludes (pathOf (root ++ [n])).parts := by
  simp [reaches, passed]

/-- A place further down is reached if the first folder on the way is entered and it is reached
from there. -/
theorem reaches_deeper (s : Selection) (root : List String) (n m : String) (names : List String) :
    s.reaches root (root ++ n :: m :: names) =
      (!s.prunes (root ++ [n]) && s.reaches (root ++ [n]) (root ++ n :: m :: names)) := by
  have hdrop : (root ++ n :: m :: names).drop (root ++ [n]).length = m :: names := by
    have hcons : root ++ n :: m :: names = (root ++ [n]) ++ m :: names := by simp
    rw [hcons, List.drop_left]
  simp only [reaches, List.drop_left, hdrop, passed, List.all_cons]
  exact Bool.and_left_comm ..

theorem filesOf_eq_filter (w : World) (s : Selection) (place : List String)
    (entries : List (String × FileTree)) :
    filesOf w s place entries = (filesOf w s.unpruned place entries).filter (s.reaches place) := by
  rw [filesOf, filesOf]
  simp only [unpruned, excluded_nil, Bool.not_false, List.filter_true]
  refine List.filter_congr fun p hp => ?_
  obtain ⟨e, -, rfl⟩ := List.mem_map.mp hp
  exact (reaches_entry s place e.1).symm

theorem flatMap_filter {α β : Type} (p : α → Bool) (f : α → List β) (l : List α) :
    (l.filter p).flatMap f = l.flatMap fun a => if p a then f a else [] := by
  induction l with
  | nil => rfl
  | cons a rest ih =>
    rw [List.filter_cons, List.flatMap_cons, ← ih]
    split <;> simp

/-- **The walk is the whole walk, less what it does not reach**: in the same order, and without a
look at what stands at the places. -/
theorem candidates_eq_filter (w : World) (s : Selection) (place : List String) (t : FileTree) :
    s.candidates w place t = (s.unpruned.candidates w place t).filter (s.reaches place) := by
  induction t generalizing place with
  | file bytes fault => simp [candidates]
  | link target => simp [candidates]
  | folder entries ih =>
    -- a subfolder that is entered keeps what is reached from it, and any other keeps nothing
    have hsub : ∀ e ∈ byName entries,
        (s.unpruned.candidates w (place ++ [e.1]) e.2).filter (s.reaches place) =
          if s.prunes (place ++ [e.1]) then [] else s.candidates w (place ++ [e.1]) e.2 := by
      intro e he
      have hreach : ∀ p ∈ s.unpruned.candidates w (place ++ [e.1]) e.2,
          s.reaches place p = (!s.prunes (place ++ [e.1]) && s.reaches (place ++ [e.1]) p) := by
        intro p hp
        obtain ⟨m, names, rfl⟩ := (mem_candidates_unpruned_iff.mp hp).exists_names
        rw [List.append_assoc, List.singleton_append]
        exact reaches_deeper s place e.1 m names
      rw [List.filter_congr hreach, ih e (mem_byName_iff.mp he)]
      cases s.prunes (place ++ [e.1]) <;> simp
    rw [candidates_folder, candidates_folder, List.filter_append, ← filesOf_eq_filter,
      List.filter_flatMap]
    congr 1
    rw [flatMap_filter, flatMap_filter]
    refine List.flatMap_congr fun e he => ?_
    rw [enters_unpruned, hsub e he, enters]
    cases e.2.isFolder <;> cases s.prunes (place ++ [e.1]) <;> simp

/-! ## What leaving folders out costs -/

/-- `q` is a folder on the way from `root` down to `p`, neither the one nor the other. -/
def OnTheWay (root q p : List String) : Prop :=
  ∃ u v, u ≠ [] ∧ v ≠ [] ∧ q = root ++ u ∧ p = q ++ v

theorem mem_passed_iff {root names q : List String} :
    q ∈ passed root names ↔ OnTheWay root q (root ++ names) := by
  fun_induction passed root names with
  | case1 root n m rest ih =>
    rw [List.mem_cons, ih]
    constructor
    · rintro (rfl | ⟨u, v, hu, hv, rfl, hp⟩)
      · exact ⟨[n], m :: rest, by simp, by simp, rfl, by simp⟩
      · exact ⟨n :: u, v, by simp, hv, by simp, by simpa using hp⟩
    · rintro ⟨u, v, hu, hv, rfl, hp⟩
      obtain ⟨k, u, rfl⟩ := List.exists_cons_of_ne_nil hu
      simp only [List.append_assoc, List.cons_append, List.append_cancel_left_eq,
        List.cons.injEq] at hp
      obtain ⟨rfl, hp⟩ := hp
      cases u with
      | nil => exact .inl rfl
      | cons l u => exact .inr ⟨l :: u, v, by simp, hv, by simp, by simp [hp]⟩
  | case2 root names hnames =>
    simp only [List.not_mem_nil, false_iff]
    rintro ⟨u, v, hu, hv, rfl, hp⟩
    obtain ⟨k, u, rfl⟩ := List.exists_cons_of_ne_nil hu
    obtain ⟨l, v, rfl⟩ := List.exists_cons_of_ne_nil hv
    rw [List.append_assoc, List.append_cancel_left_eq] at hp
    cases u with
    | nil => exact hnames k l v (by simpa using hp)
    | cons u us => exact hnames k u (us ++ l :: v) (by simpa using hp)

/-- A place is reached if it is not excluded and no folder on the way is left out. -/
theorem reaches_iff {root names : List String} :
    s.reaches root (root ++ names) = true ↔
      excluded s.excludes (pathOf (root ++ names)).parts = false ∧
        ∀ q, OnTheWay root q (root ++ names) → s.prunes q = false := by
  simp [reaches, List.all_eq_true, mem_passed_iff]

/-- The last name of a path is one that tools give to the files they write. -/
def bearsGeneratedName (p : PathName) : Bool :=
  generatedFiles.contains p.name ||
    generatedEndings.any fun e => e.toList.isSuffixOf (Text.lower p.name.toList)

theorem isGenerated_eq (p : PathName) :
    isGenerated p = (p.parts.any generatedFolders.contains || bearsGeneratedName p) := by
  rw [isGenerated, bearsGeneratedName, Bool.or_assoc]

/-- The pieces of a path stay further down. -/
theorem mem_parts_append {name : String} {q : List String} (h : name ∈ (pathOf q).parts)
    (v : List String) : name ∈ (pathOf (q ++ v)).parts := by
  have hparts : (pathOf (q ++ v)).parts = (pathOf q).parts ++ v := rfl
  rw [hparts]
  exact List.mem_append_left v h

/-- What is excluded stays so further down. -/
theorem excluded_append {excludes q : List String} (v : List String)
    (h : excluded excludes (pathOf q).parts = true) :
    excluded excludes (pathOf (q ++ v)).parts = true := by
  simp only [excluded, List.any_eq_true, List.contains_iff_mem] at h ⊢
  obtain ⟨name, hname, hmem⟩ := h
  exact ⟨name, hname, mem_parts_append hmem v⟩

/-- And so does what lies in a folder of generated files. -/
theorem any_generatedFolders_append {q : List String} (v : List String)
    (h : (pathOf q).parts.any generatedFolders.contains = true) :
    (pathOf (q ++ v)).parts.any generatedFolders.contains = true := by
  rw [List.any_eq_true] at h ⊢
  obtain ⟨name, hmem, hname⟩ := h
  exact ⟨name, mem_parts_append hmem v, hname⟩

/-- **What leaving folders out costs a file that passes on its own**: it is lost exactly if
generated files are skipped and some folder on the way bears the name of a generated file. The
other reasons to leave a folder out are reasons against every file below it. -/
theorem clear_iff {root p : List String} (hex : excluded s.excludes (pathOf p).parts = false)
    (hgen : s.skipGenerated = true → isGenerated (pathOf p) = false) :
    (∀ q, OnTheWay root q p → s.prunes q = false) ↔
      (s.skipGenerated = true →
        ∀ q, OnTheWay root q p → bearsGeneratedName (pathOf q) = false) := by
  have hpart : ∀ q, OnTheWay root q p →
      (s.prunes q = false ↔ (s.skipGenerated = true → bearsGeneratedName (pathOf q) = false)) := by
    rintro q ⟨u, v, -, -, rfl, rfl⟩
    have hq : excluded s.excludes (pathOf (root ++ u)).parts = false := by
      by_contra h
      rw [Bool.not_eq_false] at h
      rw [excluded_append v h] at hex
      cases hex
    cases hskip : s.skipGenerated with
    | false => simp [prunes, hq, hskip]
    | true =>
      have hfolders : (pathOf (root ++ u)).parts.any generatedFolders.contains = false := by
        by_contra h
        rw [Bool.not_eq_false] at h
        have := hgen hskip
        rw [isGenerated_eq, any_generatedFolders_append v h] at this
        cases this
      simp [prunes, hq, hskip, isGenerated_eq, hfolders]
  constructor
  · intro h hskip q hq
    exact (hpart q hq).mp (h q hq) hskip
  · intro h q hq
    exact (hpart q hq).mpr fun hskip => h hskip q hq

/-! ## The judgement on a file -/

/-- A place leads to a file that is not too large and has one of the endings. -/
def Allowed (w : World) (s : Selection) (p : List String) : Prop :=
  ∃ real bytes fault, w.find? (pathOf p) = some (real, .file bytes fault) ∧
    (0 < s.maxKilobytes → (bytes.size : Int) ≤ s.maxKilobytes * 1024) ∧
    (pathOf p).suffix ∈ s.extensions

theorem judge_eq_accepted_iff {p : List String} :
    s.judge w p = .accepted ↔
      (s.skipGenerated = true → isGenerated (pathOf p) = false) ∧ s.Allowed w p := by
  rw [judge]
  split
  · rename_i hgen
    rw [Bool.and_eq_true] at hgen
    simp [hgen.1, hgen.2]
  · rename_i hgen
    have hown : s.skipGenerated = true → isGenerated (pathOf p) = false := by
      intro hskip
      simpa [hskip] using hgen
    rw [and_iff_right hown]
    split
    · rename_i real bytes fault hfind
      have hallowed : s.Allowed w p ↔
          (0 < s.maxKilobytes → (bytes.size : Int) ≤ s.maxKilobytes * 1024) ∧
            (pathOf p).suffix ∈ s.extensions := by
        constructor
        · rintro ⟨real', bytes', fault', hfind', h⟩
          rw [hfind] at hfind'
          cases hfind'
          exact h
        · intro h
          exact ⟨real, bytes, fault, hfind, h⟩
      rw [hallowed]
      split
      · rename_i hlarge
        simp only [Bool.and_eq_true, decide_eq_true_eq] at hlarge
        simp only [reduceCtorEq, false_iff, not_and]
        intro h
        have := h hlarge.1
        omega
      · rename_i hsize
        simp only [Bool.and_eq_true, decide_eq_true_eq, not_and] at hsize
        have hfits : 0 < s.maxKilobytes → (bytes.size : Int) ≤ s.maxKilobytes * 1024 := by
          intro h
          have := hsize h
          omega
        rw [and_iff_right hfits]
        by_cases hend : (pathOf p).suffix ∈ s.extensions
        · simp [hend]
        · simp [hend]
    · rename_i hfile
      simp only [reduceCtorEq, false_iff]
      rintro ⟨real, bytes, fault, hfind, -⟩
      exact hfile real bytes fault hfind

end Selection

end Advisor
