import Advisor.Proofs.WalkOrder

/-!
# Worlds that look alike

A scan asks for what stands at a place, and apart from that only for the bytes of the files that it
opens. `World.Alike` relates worlds in which every place shows the same kind of thing. Paths lead to
the same places in them (`Alike.find?`, `Alike.resolve`), and since the walk goes by names, it lists
the same files in the same order (`Alike.candidates`). Where the files are the same as well, so is
the scan (`Alike.files`).
-/

namespace Advisor

theorem rel_none_iff {α β : Type} {R : α → β → Prop} {o : Option β} :
    Option.Rel R none o ↔ o = none := by
  constructor
  · rintro ⟨⟩
    rfl
  · rintro rfl
    exact .none

theorem rel_some_iff {α β : Type} {R : α → β → Prop} {a : α} {o : Option β} :
    Option.Rel R (some a) o ↔ ∃ b, o = some b ∧ R a b := by
  constructor
  · rintro ⟨hab⟩
    exact ⟨_, rfl, hab⟩
  · rintro ⟨b, rfl, hab⟩
    exact .some hab

/-! ## Worlds that look alike -/

/-- Two trees look alike before anything in them is opened: both are folders, links to the same
path, or files that pass for the same under `F`. -/
inductive FileTree.Alike (F : FileTree → FileTree → Prop) : FileTree → FileTree → Prop
  | file {bytes bytes' : ByteArray} {fault fault' : Option String} :
      F (.file bytes fault) (.file bytes' fault') →
      Alike F (.file bytes fault) (.file bytes' fault')
  | folder (entries entries' : List (String × FileTree)) :
      Alike F (.folder entries) (.folder entries')
  | link (target : String) : Alike F (.link target) (.link target)

theorem FileTree.Alike.isFolder {F : FileTree → FileTree → Prop} {t t' : FileTree}
    (h : t.Alike F t') : t.isFolder = t'.isFolder := by
  cases h <;> rfl

theorem FileTree.Alike.symm {F : FileTree → FileTree → Prop} {t t' : FileTree}
    (h : t.Alike F t') : t'.Alike (flip F) t := by
  cases h with
  | file hF => exact .file hF
  | folder entries entries' => exact .folder entries' entries
  | link target => exact .link target

namespace World

open FileTree Selection

/-- Two worlds look alike at every place. -/
structure Alike (F : FileTree → FileTree → Prop) (w w' : World) : Prop where
  here : w.here = w'.here
  at? : ∀ p, Option.Rel (FileTree.Alike F) (w.tree.at? p) (w'.tree.at? p)

namespace Alike

variable {F : FileTree → FileTree → Prop} {w w' : World} {place : List String}

theorem symm (h : Alike F w w') : Alike (flip F) w' w where
  here := h.here.symm
  at? p := by
    have hp := h.at? p
    generalize w.tree.at? p = o, w'.tree.at? p = o' at hp ⊢
    cases hp with
    | none => exact .none
    | some hlike => exact .some hlike.symm

theorem at?_link (h : Alike F w w') {target : String}
    (hat : w.tree.at? place = some (.link target)) : w'.tree.at? place = some (.link target) := by
  have hrel := h.at? place
  rw [hat, rel_some_iff] at hrel
  obtain ⟨t', hat', hlike⟩ := hrel
  cases hlike
  exact hat'

/-- A folder of one world is a folder of the other, with entries that look alike. -/
theorem exists_folder (h : Alike F w w') {entries : List (String × FileTree)}
    (hat : w.tree.at? place = some (.folder entries)) :
    ∃ entries', w'.tree.at? place = some (.folder entries') ∧
      ∀ n, Option.Rel (FileTree.Alike F) (entries.lookup n) (entries'.lookup n) := by
  have hrel := h.at? place
  rw [hat, rel_some_iff] at hrel
  obtain ⟨t', hat', hlike⟩ := hrel
  cases hlike with
  | folder _ entries' =>
    refine ⟨entries', hat', fun n => ?_⟩
    have hn := h.at? (place ++ [n])
    rwa [at?_append, at?_append, hat, hat', Option.bind_some, Option.bind_some, at?_folder,
      at?_folder] at hn

theorem exists_entry (h : Alike F w w') {entries : List (String × FileTree)} {n : String}
    {t : FileTree} (hat : w.tree.at? place = some (.folder entries))
    (hn : entries.lookup n = some t) :
    ∃ entries' t', w'.tree.at? place = some (.folder entries') ∧ entries'.lookup n = some t' ∧
      t.Alike F t' := by
  obtain ⟨entries', hat', hentries⟩ := h.exists_folder hat
  have hrel := hentries n
  rw [hn, rel_some_iff] at hrel
  obtain ⟨t', hn', hlike⟩ := hrel
  exact ⟨entries', t', hat', hn', hlike⟩

/-- **Paths lead to the same places**, and to what looks alike. -/
theorem walk (h : Alike F w w') (links : Nat) (place steps : List String) :
    Option.Rel (fun r r' => r.1 = r'.1 ∧ r.2.Alike F r'.2) (w.walk links place steps)
      (w'.walk links place steps) := by
  -- at every step the other world takes the same branch, for what decides on it looks alike
  fun_induction World.walk w links place steps with
  | case1 links place =>
    have hat := h.at? place
    rw [World.walk]
    generalize w.tree.at? place = o, w'.tree.at? place = o' at hat ⊢
    cases hat with
    | none => exact .none
    | some hlike => exact .some ⟨rfl, hlike⟩
  | case2 links place n rest entries hat hback ih =>
    obtain ⟨entries', hat', -⟩ := h.exists_folder hat
    rw [World.walk]
    simp only [hat', if_pos hback]
    exact ih
  | case3 links place n rest entries hat hback hn =>
    obtain ⟨entries', hat', hentries⟩ := h.exists_folder hat
    have hn' := hentries n
    rw [hn, rel_none_iff] at hn'
    rw [World.walk]
    simp only [hat', if_neg hback, hn']
    exact .none
  | case4 place n rest entries hat hback target hn =>
    obtain ⟨entries', t', hat', hn', hlike⟩ := h.exists_entry hat hn
    cases hlike
    rw [World.walk]
    simp only [hat', if_neg hback, hn']
    exact .none
  | case5 place n rest entries hat hback target hn links t ih =>
    obtain ⟨entries', t', hat', hn', hlike⟩ := h.exists_entry hat hn
    cases hlike
    rw [World.walk]
    simp only [hat', if_neg hback, hn']
    exact ih
  | case6 links place n rest entries hat hback t hlink hn ih =>
    obtain ⟨entries', t', hat', hn', hlike⟩ := h.exists_entry hat hn
    rw [World.walk]
    cases hlike with
    | link target => exact (hlink target rfl).elim
    | file hF =>
      simp only [hat', if_neg hback, hn']
      exact ih
    | folder sub sub' =>
      simp only [hat', if_neg hback, hn']
      exact ih
  | case7 links place n rest hno =>
    rw [World.walk]
    split
    · rename_i entries' hat'
      obtain ⟨entries, hat, -⟩ := h.symm.exists_folder hat'
      exact (hno entries hat).elim
    · exact .none

theorem find? (h : Alike F w w') (p : PathName) :
    Option.Rel (fun r r' => r.1 = r'.1 ∧ r.2.Alike F r'.2) (w.find? p) (w'.find? p) := by
  rw [World.find?, World.find?, h.here]
  exact h.walk _ _ _

/-- The real place of a path is the same. -/
theorem resolveFrom (h : Alike F w w') (links : Nat) (place steps : List String) :
    w.resolveFrom links place steps = w'.resolveFrom links place steps := by
  fun_induction World.resolveFrom w links place steps with
  | case1 links place => rw [World.resolveFrom]
  | case2 links place n rest hback ih => rw [World.resolveFrom, if_pos hback, ih]
  | case3 place n rest hback target hat =>
    rw [World.resolveFrom, if_neg hback]
    simp only [h.at?_link hat]
  | case4 place n rest hback target hat links t ih =>
    rw [World.resolveFrom, if_neg hback]
    simp only [h.at?_link hat]
    exact ih
  | case5 links place n rest hback hno ih =>
    rw [World.resolveFrom, if_neg hback, ih]
    split
    · rename_i target hat'
      exact (hno target (h.symm.at?_link hat')).elim
    · rfl

theorem resolve (h : Alike F w w') (p : PathName) : w.resolve p = w'.resolve p := by
  rw [World.resolve, World.resolve, h.here]
  exact h.resolveFrom _ _ _

/-! ## What the walk lists -/

theorem countsAsFolder (h : Alike F w w') {n : String} {t t' : FileTree} (ht : t.Alike F t') :
    Selection.countsAsFolder w place n t = Selection.countsAsFolder w' place n t' := by
  cases ht with
  | file hF => rfl
  | folder entries entries' => rfl
  | link target =>
    rw [Selection.countsAsFolder, Selection.countsAsFolder, follow?, follow?]
    have hwalk := h.walk maxLinks place [n]
    generalize w.walk maxLinks place [n] = o, w'.walk maxLinks place [n] = o' at hwalk ⊢
    cases hwalk with
    | none => rfl
    | some hlike => rw [Option.map_some, Option.map_some, hlike.2.isFolder]

end Alike

end World

namespace Selection

open FileTree

variable {w : World} {place p : List String} {t : FileTree}

/-- What the whole walk comes to stands at its place. -/
theorem Entry.exists_at? (hnamed : w.tree.WellNamed) (h : Entry w place t p)
    (hat : w.tree.at? place = some t) :
    ∃ names n u, p = place ++ names ++ [n] ∧ w.tree.at? p = some u ∧
      countsAsFolder w (place ++ names) n u = false := by
  have hentry : ∀ {q : List String} {entries : List (String × FileTree)} {n : String}
      {u : FileTree}, w.tree.at? q = some (.folder entries) → (n, u) ∈ entries →
      w.tree.at? (q ++ [n]) = some u := by
    intro q entries n u hq hmem
    rw [at?_append, hq, Option.bind_some]
    exact at?_of_mem (wellNamed_folder_iff.mp (hnamed.at? hq)).1 hmem
  induction h with
  | @here place entries n u hmem hno =>
    exact ⟨[], n, u, by simp, hentry hat hmem, by simpa using hno⟩
  | @deeper place p entries sub n hmem _ ih =>
    obtain ⟨names, m, u, rfl, hu, hno⟩ := ih (hentry hat hmem)
    exact ⟨n :: names, m, u, by simp, hu, by simpa using hno⟩

/-- The whole walk comes to whatever stands at a place below its root. -/
theorem entry_of_at? {names : List String} {n : String} {u : FileTree}
    (hat : w.tree.at? place = some t) (hu : w.tree.at? (place ++ names ++ [n]) = some u)
    (hno : countsAsFolder w (place ++ names) n u = false) :
    Entry w place t (place ++ names ++ [n]) := by
  induction names generalizing place t with
  | nil =>
    rw [List.append_nil] at hu hno ⊢
    rw [at?_append, hat, Option.bind_some] at hu
    obtain ⟨entries, rfl, hmem⟩ := exists_mem_of_at? hu
    exact .here hmem hno
  | cons m rest ih =>
    have hsplit : place ++ m :: rest = (place ++ [m]) ++ rest := by simp
    rw [hsplit] at hu hno ⊢
    have hm := hu
    rw [List.append_assoc, at?_append, Option.bind_eq_some_iff] at hm
    obtain ⟨child, hm, -⟩ := hm
    have hbelow := ih hm hu hno
    rw [at?_append, hat, Option.bind_some] at hm
    obtain ⟨entries, rfl, hmem⟩ := exists_mem_of_at? hm
    cases child with
    | file bytes fault => cases hbelow
    | link target => cases hbelow
    | folder sub => exact .deeper hmem hbelow

end Selection

namespace World.Alike

open Selection

variable {F : FileTree → FileTree → Prop} {w w' : World} {place : List String} {t t' : FileTree}

theorem entry (h : Alike F w w') (hnamed : w.tree.WellNamed) (hat : w.tree.at? place = some t)
    (hat' : w'.tree.at? place = some t') {p : List String} (hp : Entry w place t p) :
    Entry w' place t' p := by
  obtain ⟨names, n, u, rfl, hu, hno⟩ := hp.exists_at? hnamed hat
  have hrel := h.at? (place ++ names ++ [n])
  rw [hu, rel_some_iff] at hrel
  obtain ⟨u', hu', hlike⟩ := hrel
  exact entry_of_at? hat' hu' (h.countsAsFolder hlike ▸ hno)

/-- **The walk lists the same places in the same order.** -/
theorem candidates (h : Alike F w w') (hnamed : w.tree.WellNamed) (hnamed' : w'.tree.WellNamed)
    (hat : w.tree.at? place = some t) (hat' : w'.tree.at? place = some t') (s : Selection) :
    s.candidates w place t = s.candidates w' place t' := by
  rw [candidates_eq_filter w, candidates_eq_filter w']
  congr 1
  refine eq_of_precedes (pairwise_precedes_candidates (hnamed.at? hat))
    (pairwise_precedes_candidates (hnamed'.at? hat')) ?_
  intro p
  rw [mem_candidates_unpruned_iff, mem_candidates_unpruned_iff]
  exact ⟨h.entry hnamed hat hat', h.symm.entry hnamed' hat' hat⟩

theorem candidatesOf (h : Alike F w w') (hnamed : w.tree.WellNamed) (hnamed' : w'.tree.WellNamed)
    (s : Selection) (root : List String) :
    Scan.candidatesOf w s root = Scan.candidatesOf w' s root := by
  have hroot := h.at? root
  rw [Scan.candidatesOf, Scan.candidatesOf]
  generalize hat : w.tree.at? root = o, hat' : w'.tree.at? root = o' at hroot ⊢
  cases hroot with
  | none => rfl
  | some hlike =>
    have hwalk := h.candidates hnamed hnamed' hat hat' s
    cases hlike with
    | file hF => rfl
    | folder entries entries' => simp only [hwalk]
    | link target => simp only [hwalk]

/-! ## What is made of it -/

/-- A file is judged without a look into it. -/
theorem judge (h : Alike F w w')
    (hF : ∀ {bytes fault bytes' fault'}, F (.file bytes fault) (.file bytes' fault') →
      bytes.size = bytes'.size) (s : Selection) (place : List String) :
    s.judge w place = s.judge w' place := by
  have hfind := h.find? (pathOf place)
  rw [Selection.judge, Selection.judge]
  generalize w.find? (pathOf place) = o, w'.find? (pathOf place) = o' at hfind ⊢
  cases hfind with
  | none => rfl
  | @some r r' hr =>
    obtain ⟨real, t⟩ := r
    obtain ⟨real', t'⟩ := r'
    obtain ⟨rfl, hlike⟩ := hr
    cases hlike with
    | file hfile => simp only [hF hfile]
    | folder entries entries' => rfl
    | link target => rfl

theorem reportedPath (h : Alike F w w') (base place : List String) :
    Scan.reportedPath w base place = Scan.reportedPath w' base place := by
  rw [Scan.reportedPath, Scan.reportedPath, h.resolve]

theorem selected (h : Alike Eq w w') (s : ScanSettings) (base place : List String)
    (kind : String) : Scan.selected w s base place kind = Scan.selected w' s base place kind := by
  have hfind := h.find? (pathOf place)
  rw [Scan.selected, Scan.selected, h.reportedPath]
  generalize w.find? (pathOf place) = o, w'.find? (pathOf place) = o' at hfind ⊢
  cases hfind with
  | none => rfl
  | @some r r' hr =>
    obtain ⟨real, t⟩ := r
    obtain ⟨real', t'⟩ := r'
    obtain ⟨rfl, hlike⟩ := hr
    cases hlike with
    | file hfile =>
      cases hfile
      rfl
    | folder entries entries' => rfl
    | link target => rfl

theorem candidate (h : Alike Eq w w') (s : ScanSettings) (base : List String) (sofar : ScanResult)
    (place : List String) :
    Scan.candidate w s base sofar place = Scan.candidate w' s base sofar place := by
  have hjudge : s.selection.judge w place = s.selection.judge w' place := by
    refine h.judge ?_ s.selection place
    intro bytes fault bytes' fault' heq
    cases heq
    rfl
  simp only [Scan.candidate, hjudge, h.selected]

/-- **A scan of worlds that look alike** comes to the same. -/
theorem files (h : Alike Eq w w') (hnamed : w.tree.WellNamed) (hnamed' : w'.tree.WellNamed)
    (s : ScanSettings) (root : PathName) : Scan.files w s root = Scan.files w' s root := by
  have hcandidates : ∀ base places sofar,
      Scan.candidates w s base sofar places = Scan.candidates w' s base sofar places := by
    intro base places
    induction places with
    | nil => exact fun sofar => rfl
    | cons p rest ih =>
      intro sofar
      simp only [Scan.candidates, h.candidate, ih]
  simp only [Scan.files, h.resolve, h.candidatesOf hnamed hnamed', hcandidates]

end World.Alike

end Advisor
