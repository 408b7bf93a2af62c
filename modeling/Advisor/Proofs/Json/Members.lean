import Advisor.Proofs.Json.Reader
import Mathlib

/-!
# The members of an object

Setting members one after the other keeps one member of each name: the first gives its place and
the last its value (`map_fst_putAll`, `lookup_putAll`). The reader puts objects together in this
way, so that no object in what is read has two members of one name: `wellNamed_of_read`.
-/

namespace Advisor.Json

variable {members written : List (String × Json)} {name : String}

/-! ## Setting members -/

/-- Sets members one after the other. -/
def putAll (members written : List (String × Json)) : List (String × Json) :=
  written.foldl (fun ms m => put ms m.1 m.2) members

theorem putAll_append_singleton (members written : List (String × Json)) (m : String × Json) :
    putAll members (written ++ [m]) = put (putAll members written) m.1 m.2 := by
  rw [putAll, List.foldl_append]
  rfl

theorem lookup_cons_eq (m : String × Json) (members : List (String × Json)) (n : String) :
    (m :: members).lookup n = if n = m.1 then some m.2 else members.lookup n := by
  rw [List.lookup_cons]
  by_cases h : n = m.1
  · rw [if_pos h, beq_iff_eq.mpr h]
  · rw [if_neg h, beq_false_of_ne h]

theorem lookup_put (members : List (String × Json)) (name : String) (v : Json) (n : String) :
    (put members name v).lookup n = if n = name then some v else members.lookup n := by
  induction members with
  | nil => rw [put, lookup_cons_eq]
  | cons m rest ih =>
    rw [put, lookup_cons_eq]
    by_cases hm : m.1 = name
    · rw [if_pos hm, lookup_cons_eq, hm]
      by_cases h : n = name
      · rw [if_pos h, if_pos h]
      · rw [if_neg h, if_neg h, if_neg h]
    · rw [if_neg hm, lookup_cons_eq, ih]
      by_cases h : n = name
      · rw [if_pos h, if_pos h, if_neg (h ▸ Ne.symm hm)]
      · rw [if_neg h, if_neg h]

/-- **The last of several values stays.** -/
theorem lookup_putAll (members written : List (String × Json)) (n : String) :
    (putAll members written).lookup n = (written.reverse.lookup n).or (members.lookup n) := by
  induction written using List.reverseRecOn with
  | nil => rfl
  | append_singleton rest m ih =>
    rw [putAll_append_singleton, lookup_put, ih, List.reverse_append, List.reverse_singleton,
      List.singleton_append, lookup_cons_eq]
    by_cases h : n = m.1
    · rw [if_pos h, if_pos h, Option.some_or]
    · rw [if_neg h, if_neg h]

/-- **The first of several places stays**, and those of the members that are there already come
before. -/
theorem map_fst_putAll (members written : List (String × Json)) :
    (putAll members written).map Prod.fst = members.map Prod.fst ++
      (written.map Prod.fst).eraseDups.filter (· ∉ members.map Prod.fst) := by
  induction written using List.reverseRecOn with
  | nil => simp [putAll]
  | append_singleton rest m ih =>
    have hmem : m.1 ∈ (putAll members rest).map Prod.fst ↔
        m.1 ∈ members.map Prod.fst ∨ m.1 ∈ rest.map Prod.fst := by
      rw [ih, List.mem_append, List.mem_filter, List.mem_eraseDups, decide_eq_true_iff]
      tauto
    rw [putAll_append_singleton, map_fst_put, List.map_append, List.map_singleton,
      List.eraseDups_append, List.filter_append, ← List.append_assoc, ← ih]
    by_cases hrest : m.1 ∈ rest.map Prod.fst
    · have hnone : [m.1].removeAll (rest.map Prod.fst) = [] := by simpa [List.removeAll] using hrest
      rw [if_pos (hmem.mpr (.inr hrest)), hnone, List.eraseDups_nil, List.filter_nil,
        List.append_nil]
    · have hsame : [m.1].removeAll (rest.map Prod.fst) = [m.1] := by
        simpa [List.removeAll] using hrest
      rw [hsame, List.eraseDups_cons, List.filter_nil, List.eraseDups_nil]
      by_cases hold : m.1 ∈ members.map Prod.fst
      · rw [if_pos (hmem.mpr (.inl hold)), List.filter_singleton]
        simp [hold]
      · rw [if_neg (by tauto), List.filter_singleton]
        simp [hold]

theorem mem_put {m : String × Json} {v : Json} (h : m ∈ put members name v) :
    m ∈ members ∨ m = (name, v) := by
  induction members with
  | nil => exact .inr (List.mem_singleton.mp h)
  | cons d rest ih =>
    rw [put] at h
    split at h
    · rename_i hd
      rcases List.mem_cons.mp h with rfl | h
      · exact .inr (by rw [hd])
      · exact .inl (List.mem_cons_of_mem _ h)
    · rcases List.mem_cons.mp h with rfl | h
      · exact .inl List.mem_cons_self
      · exact (ih h).imp_left (List.mem_cons_of_mem _)

theorem mem_putAll {m : String × Json} (h : m ∈ putAll members written) :
    m ∈ members ∨ m ∈ written := by
  induction written using List.reverseRecOn with
  | nil => exact .inl h
  | append_singleton rest d ih =>
    rw [putAll_append_singleton] at h
    rw [List.mem_append, List.mem_singleton]
    rcases mem_put h with h | rfl
    · exact (ih h).imp_right .inl
    · exact .inr (.inr rfl)

/-- Names stay different. -/
theorem nodup_putAll (h : (members.map Prod.fst).Nodup) :
    ((putAll members written).map Prod.fst).Nodup := by
  induction written using List.reverseRecOn with
  | nil => exact h
  | append_singleton rest m ih =>
    rw [putAll_append_singleton, map_fst_put]
    split
    · exact ih
    · rename_i hnew
      rw [← List.concat_eq_append]
      exact ih.concat hnew

/-- Where names are different, a member is found under its name, and nothing else is. -/
theorem lookup_eq_some_iff_mem (h : (members.map Prod.fst).Nodup) {v : Json} :
    members.lookup name = some v ↔ (name, v) ∈ members := by
  constructor
  · intro hv
    obtain ⟨front, back, rfl, -⟩ := List.lookup_eq_some_iff.mp hv
    exact List.mem_append_right _ List.mem_cons_self
  · intro hmem
    obtain ⟨front, back, rfl⟩ := List.append_of_mem hmem
    refine List.lookup_eq_some_iff.mpr ⟨front, back, rfl, fun m hm => ?_⟩
    rw [List.map_append, List.nodup_append] at h
    have hne := h.2.2 m.1 (List.mem_map_of_mem hm) name List.mem_cons_self
    simpa using hne.symm

/-- Names that are different come once already. -/
theorem eraseDups_of_nodup {names : List String} (h : names.Nodup) : names.eraseDups = names := by
  induction names with
  | nil => rfl
  | cons name rest ih =>
    obtain ⟨hnew, hrest⟩ := List.nodup_cons.mp h
    have hsame : rest.filter (fun n => !n == name) = rest :=
      List.filter_eq_self.mpr fun n hn => by simpa using ne_of_mem_of_not_mem hn hnew
    rw [List.eraseDups_cons, hsame, ih hrest]

theorem lookup_reverse (h : (members.map Prod.fst).Nodup) (n : String) :
    members.reverse.lookup n = members.lookup n := by
  have hreverse : (members.reverse.map Prod.fst).Nodup := by
    rw [List.map_reverse]
    exact List.nodup_reverse.mpr h
  ext v
  rw [lookup_eq_some_iff_mem hreverse, List.mem_reverse, lookup_eq_some_iff_mem h]

/-! ## Objects in what is read -/

/-- No object has two members of one name. -/
inductive WellNamed : Json → Prop
  | scalar {v : Json} : (∀ items, v ≠ .list items) → (∀ members, v ≠ .object members) → WellNamed v
  | list {items : List Json} : (∀ v ∈ items, WellNamed v) → WellNamed (.list items)
  | object {members : List (String × Json)} : (members.map Prod.fst).Nodup →
      (∀ m ∈ members, WellNamed m.2) → WellNamed (.object members)

theorem WellNamed.of_object (h : (Json.object members).WellNamed) :
    (members.map Prod.fst).Nodup ∧ ∀ m ∈ members, m.2.WellNamed := by
  cases h with
  | scalar _ hno => exact absurd rfl (hno members)
  | object hnames hbelow => exact ⟨hnames, hbelow⟩

theorem wellNamed_of_readNumber {negative : Bool} {cs rest : List Char} {v : Json}
    (h : readNumber negative cs = .ok (v, rest)) : v.WellNamed := by
  revert h
  fun_cases readNumber negative cs with
  | case1 | case3 =>
    intro h
    cases h
  | case2 | case4 =>
    intro h
    cases h
    exact .scalar (by simp) (by simp)

/-- What is read without brackets is neither a list nor an object. -/
theorem wellNamed_of_readScalar {cs rest : List Char} {v : Json}
    (h : readScalar cs = .ok (v, rest)) : v.WellNamed := by
  unfold readScalar at h
  split at h
  · rename_i back
    cases hstring : readString [] back with
    | error e =>
      rw [hstring] at h
      cases h
    | ok r =>
      rw [hstring] at h
      cases h
      exact .scalar (by simp) (by simp)
  · split at h
    · cases h
      exact .scalar (by simp) (by simp)
    · exact wellNamed_of_readNumber h
  · split at h
    · cases h
      exact .scalar (by simp) (by simp)
    · cases h
      exact .scalar (by simp) (by simp)
    · cases h
      exact .scalar (by simp) (by simp)
    · cases h
      exact .scalar (by simp) (by simp)
    · cases h
      exact .scalar (by simp) (by simp)
    · exact wellNamed_of_readNumber h

theorem wellNamed_value {b : Bracket} {es : List (String × Json)} (h : ∀ e ∈ es, e.2.WellNamed) :
    (b.value es).WellNamed := by
  cases b with
  | square =>
    refine .list fun v hv => ?_
    obtain ⟨e, he, rfl⟩ := List.mem_map.mp hv
    exact h e he
  | curly =>
    refine .object (@nodup_putAll [] es (by simp)) fun m hm => ?_
    exact h m ((mem_putAll hm).resolve_left List.not_mem_nil)

/-- **Objects are put together member by member**, at every level. -/
theorem Value.wellNamed {cs rest : List Char} {v : Json} (h : Value cs v rest) : v.WellNamed := by
  refine @Value.rec (fun _ v _ _ => v.WellNamed) (fun _ _ es _ _ => ∀ e ∈ es, e.2.WellNamed)
    ?scalar ?empty ?filled ?last ?more cs v rest h
  case scalar =>
    intro cs rest v _ hread
    exact wellNamed_of_readScalar hread
  case empty =>
    intro b cs rest _
    exact wellNamed_value (by simp)
  case filled =>
    intro b cs rest es _ ih
    exact wellNamed_value ih
  case last =>
    intro b cs cs' rest rest' name v _ _ _ ih
    exact List.forall_mem_singleton.mpr ih
  case more =>
    intro b cs cs' rest rest' rest'' name v es _ _ _ _ ihv ihes
    exact List.forall_mem_cons.mpr ⟨ihv, ihes⟩

/-- What is read is a value, and nothing but blanks stands around it. -/
theorem value_of_read {depth : Nat} {text : String} {v : Json} (h : read depth text = .ok v) :
    ∃ rest, Value (skipSpace text.toList) v rest ∧ skipSpace rest = [] := by
  rw [read] at h
  split at h
  · cases h
  · rename_i v' rest hvalue
    split at h
    · rename_i hrest
      cases h
      exact ⟨rest, value_of_readValue hvalue, List.isEmpty_iff.mp hrest⟩
    · cases h

/-- **No object in what is read has two members of one name.** -/
theorem wellNamed_of_read {depth : Nat} {text : String} {v : Json} (h : read depth text = .ok v) :
    v.WellNamed := by
  obtain ⟨rest, hvalue, -⟩ := value_of_read h
  exact hvalue.wellNamed

end Advisor.Json
