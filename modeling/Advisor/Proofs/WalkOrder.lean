import Advisor.Proofs.Relocation

/-!
# The order of the walk

No folder of a file system has two entries of one name. In such a tree the walk goes strictly
forward in an order of places that can be told from the names alone, `Precedes`
(`pairwise_precedes_candidates`). So it comes to no place twice, and by `eq_of_precedes` two walks
are the same once they list the same places.
-/

namespace Advisor

/-! ## Names in a folder -/

namespace FileTree

/-- No folder has two entries of one name. -/
inductive WellNamed : FileTree → Prop
  | file (bytes : ByteArray) (fault : Option String) : WellNamed (.file bytes fault)
  | folder {entries : List (String × FileTree)} : (entries.map Prod.fst).Nodup →
      (∀ e ∈ entries, WellNamed e.2) → WellNamed (.folder entries)
  | link (target : String) : WellNamed (.link target)

theorem wellNamed_folder_iff {entries : List (String × FileTree)} :
    (folder entries).WellNamed ↔
      (entries.map Prod.fst).Nodup ∧ ∀ e ∈ entries, e.2.WellNamed := by
  constructor
  · intro h
    cases h with
    | folder hnames hbelow => exact ⟨hnames, hbelow⟩
  · rintro ⟨hnames, hbelow⟩
    exact .folder hnames hbelow

/-- An entry is found under its name. -/
theorem at?_of_mem {entries : List (String × FileTree)} (h : (entries.map Prod.fst).Nodup)
    {e : String × FileTree} (he : e ∈ entries) : (folder entries).at? [e.1] = some e.2 := by
  rw [at?_folder]
  induction entries with
  | nil => cases he
  | cons d rest ih =>
    rw [List.map_cons, List.nodup_cons] at h
    rcases List.mem_cons.mp he with rfl | he
    · rw [List.lookup_cons, beq_self_eq_true]
    · have hne : e.1 ≠ d.1 := by
        intro heq
        exact h.1 (heq ▸ List.mem_map_of_mem he)
      rw [List.lookup_cons, beq_false_of_ne hne]
      exact ih h.2 he

/-- What stands in something else stands there as an entry of a folder. -/
theorem exists_mem_of_at? {t child : FileTree} {n : String} (h : t.at? [n] = some child) :
    ∃ entries, t = .folder entries ∧ (n, child) ∈ entries := by
  cases t with
  | file bytes fault => cases h
  | folder entries => exact ⟨entries, rfl, mem_of_at? h⟩
  | link target => cases h

theorem WellNamed.at? {t u : FileTree} {names : List String} (h : t.WellNamed)
    (hu : t.at? names = some u) : u.WellNamed := by
  induction names generalizing t with
  | nil =>
    cases hu
    exact h
  | cons n rest ih =>
    rw [at?_cons, Option.bind_eq_some_iff] at hu
    obtain ⟨child, hchild, hu⟩ := hu
    obtain ⟨entries, rfl, hmem⟩ := exists_mem_of_at? hchild
    exact ih ((wellNamed_folder_iff.mp h).2 _ hmem) hu

end FileTree

namespace Selection

/-! ## The order of places -/

/-- **The order in which the walk comes to places.** The files of a folder come before those of its
subfolders; both the files and the subfolders go by their names. -/
def Precedes : List String → List String → Prop
  | [n], [m] => n < m
  | [_], _ :: _ :: _ => True
  | n :: k :: u, m :: l :: v => n < m ∨ n = m ∧ Precedes (k :: u) (l :: v)
  | _, _ => False

theorem Precedes.asymm {u v : List String} (h : Precedes u v) : ¬ Precedes v u := by
  fun_induction Precedes u v with
  | case1 n m => exact lt_asymm h
  | case2 n m l v => exact id
  | case3 n k u m l v ih =>
    rintro (hlt | ⟨rfl, hrest⟩)
    · rcases h with h | ⟨rfl, -⟩
      · exact lt_asymm h hlt
      · exact lt_irrefl _ hlt
    · rcases h with h | ⟨-, h⟩
      · exact lt_irrefl _ h
      · exact ih h hrest
  | case4 => exact h.elim

theorem not_precedes_self (u : List String) : ¬ Precedes u u := fun h => h.asymm h

/-- A common beginning does not matter. -/
theorem precedes_append {u v : List String} (hu : u ≠ []) (hv : v ≠ []) (root : List String) :
    Precedes (root ++ u) (root ++ v) ↔ Precedes u v := by
  induction root with
  | nil => rfl
  | cons a rest ih =>
    obtain ⟨k, u', hku⟩ := List.exists_cons_of_ne_nil (List.append_ne_nil_of_right_ne_nil rest hu)
    obtain ⟨l, v', hlv⟩ := List.exists_cons_of_ne_nil (List.append_ne_nil_of_right_ne_nil rest hv)
    rw [List.cons_append, List.cons_append, ← ih, hku, hlv, Precedes]
    simp

theorem nodup_of_precedes {l : List (List String)} (h : l.Pairwise Precedes) : l.Nodup := by
  refine h.imp ?_
  rintro p q hpq rfl
  exact not_precedes_self p hpq

/-- **What goes forward is known by its members.** -/
theorem eq_of_precedes {l l' : List (List String)} (h : l.Pairwise Precedes)
    (h' : l'.Pairwise Precedes) (hmem : ∀ p, p ∈ l ↔ p ∈ l') : l = l' := by
  have hperm : l.Perm l' :=
    (List.perm_ext_iff_of_nodup (nodup_of_precedes h) (nodup_of_precedes h')).mpr hmem
  refine hperm.eq_of_pairwise ?_ h h'
  intro p q _ _ hpq hqp
  exact absurd hqp hpq.asymm

/-! ## The walk goes forward -/

section ByName

variable {α : Type}

theorem pairwise_byName (l : List (String × α)) : (byName l).Pairwise fun a b => a.1 ≤ b.1 := by
  induction l with
  | nil => simp [byName]
  | cons a rest ih =>
    obtain ⟨front, back, hcons, hrest, hfront, hback⟩ := exists_byName_cons a rest
    rw [hrest, List.pairwise_append] at ih
    obtain ⟨hf, hb, hfb⟩ := ih
    rw [hcons, List.pairwise_append, List.pairwise_cons]
    refine ⟨hf, ⟨hback, hb⟩, ?_⟩
    intro x hx y hy
    rcases List.mem_cons.mp hy with rfl | hy
    · exact (lt_of_not_ge (hfront x hx)).le
    · exact hfb x hx y hy

/-- Where no name stands twice, the names go strictly up. -/
theorem pairwise_byName_lt {l : List (String × α)} (h : (l.map Prod.fst).Nodup) :
    (byName l).Pairwise fun a b => a.1 < b.1 := by
  have hperm : (byName l).Perm l := List.mergeSort_perm l _
  have hne : (byName l).Pairwise fun a b => a.1 ≠ b.1 :=
    List.pairwise_map.mp ((hperm.map Prod.fst).nodup_iff.mpr h)
  exact ((pairwise_byName l).and hne).imp fun hab => lt_of_le_of_ne hab.1 hab.2

end ByName

variable {w : World} {s : Selection} {place : List String}

/-- The walk lists nothing that the whole walk does not. -/
theorem entry_of_mem_candidates {t : FileTree} {p : List String}
    (hp : p ∈ s.candidates w place t) : Entry w place t p := by
  rw [candidates_eq_filter] at hp
  exact mem_candidates_unpruned_iff.mp (List.mem_of_mem_filter hp)

/-- The files of one folder go by their names. -/
theorem pairwise_precedes_filesOf {entries : List (String × FileTree)}
    (h : (entries.map Prod.fst).Nodup) : (filesOf w s place entries).Pairwise Precedes := by
  refine .filter _ (List.pairwise_map.mpr (.filter _ ((pairwise_byName_lt h).imp ?_)))
  intro a b hab
  exact (precedes_append (by simp) (by simp) place).mpr hab

/-- **The walk goes forward.** -/
theorem pairwise_precedes_candidates {t : FileTree} (h : t.WellNamed) :
    (s.candidates w place t).Pairwise Precedes := by
  induction t generalizing place with
  | file bytes fault => simp [candidates]
  | link target => simp [candidates]
  | folder entries ih =>
    obtain ⟨hnames, hbelow⟩ := FileTree.wellNamed_folder_iff.mp h
    have hsub : ∀ (e : String × FileTree) p, p ∈ s.candidates w (place ++ [e.1]) e.2 →
        ∃ m names, p = place ++ e.1 :: m :: names := by
      intro e p hp
      obtain ⟨m, names, rfl⟩ := (entry_of_mem_candidates hp).exists_names
      exact ⟨m, names, by simp⟩
    rw [candidates_folder, List.pairwise_append, List.pairwise_flatMap]
    refine ⟨pairwise_precedes_filesOf hnames, ⟨?_, ?_⟩, ?_⟩
    · intro e he
      have he := mem_byName_iff.mp (List.mem_of_mem_filter he)
      exact ih e he (hbelow e he)
    · -- two subfolders: their own names decide
      refine .filter _ ((pairwise_byName_lt hnames).imp ?_)
      intro a b hab p hp q hq
      obtain ⟨m, names, rfl⟩ := hsub a p hp
      obtain ⟨m', names', rfl⟩ := hsub b q hq
      exact (precedes_append (by simp) (by simp) place).mpr (.inl hab)
    · -- a file, and one in a subfolder
      intro p hp q hq
      obtain ⟨b, -, hq⟩ := List.mem_flatMap.mp hq
      obtain ⟨m', names', rfl⟩ := hsub b q hq
      have hp := List.mem_of_mem_filter hp
      obtain ⟨a, -, rfl⟩ := List.mem_map.mp hp
      exact (precedes_append (by simp) (by simp) place).mpr trivial

end Selection

end Advisor
