import Advisor.Grammar.Lexeme
import Mathlib.Tactic.Common

/-!
# Patterns and the texts they match

`Lexeme.Matches` says which texts a pattern stands for, by its constructors and without a word on
how it is sought. Searching reads one character at a time through partial derivatives
(`matches_cons_iff`) with the pattern begun anew everywhere, and `occursIn_iff` is what comes of
it: a pattern is found in a text exactly if some piece of the text matches it.
-/

namespace Advisor.Grammar

deriving instance ReflBEq, LawfulBEq for CharSet
deriving instance ReflBEq, LawfulBEq for Lexeme

namespace Lexeme

variable {a b r : Lexeme} {c : Char} {u : List Char}

/-- The texts that a pattern stands for. -/
inductive Matches : Lexeme → List Char → Prop
  | empty : Matches .empty []
  | set {s : CharSet} {c : Char} : s.contains c.toNat = true → Matches (.set s) [c]
  | seq {a b : Lexeme} {u v : List Char} : Matches a u → Matches b v → Matches (.seq a b) (u ++ v)
  | left {a b : Lexeme} {u : List Char} : Matches a u → Matches (.alt a b) u
  | right {a b : Lexeme} {u : List Char} : Matches b u → Matches (.alt a b) u
  | done {a : Lexeme} : Matches (.star a) []
  | again {a : Lexeme} {u v : List Char} :
      Matches a u → Matches (.star a) v → Matches (.star a) (u ++ v)

/-- Some piece of a text matches the pattern. -/
def FoundIn (r : Lexeme) (text : List Char) : Prop := ∃ u, u <:+: text ∧ r.Matches u

/-! ## One constructor at a time -/

theorem matches_empty_iff : Matches .empty u ↔ u = [] := by
  constructor
  · intro h
    cases h
    rfl
  · rintro rfl
    exact .empty

theorem matches_set_iff {s : CharSet} :
    Matches (.set s) u ↔ ∃ c : Char, s.contains c.toNat = true ∧ u = [c] := by
  constructor
  · intro h
    cases h with
    | set hc => exact ⟨_, hc, rfl⟩
  · rintro ⟨c, hc, rfl⟩
    exact .set hc

theorem matches_seq_iff :
    Matches (.seq a b) u ↔ ∃ v w, Matches a v ∧ Matches b w ∧ u = v ++ w := by
  constructor
  · intro h
    cases h with
    | seq ha hb => exact ⟨_, _, ha, hb, rfl⟩
  · rintro ⟨v, w, ha, hb, rfl⟩
    exact .seq ha hb

theorem matches_alt_iff : Matches (.alt a b) u ↔ Matches a u ∨ Matches b u := by
  constructor
  · intro h
    cases h with
    | left ha => exact .inl ha
    | right hb => exact .inr hb
  · rintro (ha | hb)
    · exact .left ha
    · exact .right hb

/-- A repetition that is not empty has a first round that is not empty either: empty rounds add
nothing. -/
theorem exists_round_of_matches_star (h : Matches (.star a) (c :: u)) :
    ∃ v w, Matches a (c :: v) ∧ Matches (.star a) w ∧ u = v ++ w := by
  generalize hp : Lexeme.star a = p at h
  generalize ht : c :: u = t at h
  induction h with
  | empty | set | seq | left | right => cases hp
  | done => cases ht
  | @again a' v w ha hrest iha ihrest =>
    cases hp
    cases v with
    | nil => exact ihrest rfl ht
    | cons d v =>
      obtain ⟨rfl, rfl⟩ := List.cons.inj ht
      exact ⟨v, w, ha, hrest, rfl⟩

/-! ## Derivatives -/

/-- **Nullable patterns are those that match nothing at all.** -/
theorem nullable_iff : r.nullable = true ↔ Matches r [] := by
  induction r with
  | empty => simp [nullable, matches_empty_iff]
  | set s => simp [nullable, matches_set_iff]
  | seq a b iha ihb => simp [nullable, matches_seq_iff, iha, ihb]
  | alt a b iha ihb => simp [nullable, matches_alt_iff, iha, ihb]
  | star a => simp [nullable, Matches.done]

theorem matches_andThen_iff : Matches (a.andThen b) u ↔ Matches (.seq a b) u := by
  cases a with
  | empty => simp [andThen, matches_seq_iff, matches_empty_iff]
  | set | seq | alt | star => rfl

/-- What is left of a sequence once its first part has begun. -/
theorem exists_mem_map_andThen_iff {ds : List Lexeme} :
    (∃ d ∈ ds.map (·.andThen b), Matches d u) ↔
      ∃ v w, (∃ d ∈ ds, Matches d v) ∧ Matches b w ∧ u = v ++ w := by
  constructor
  · rintro ⟨_, hmap, hu⟩
    obtain ⟨d, hd, rfl⟩ := List.mem_map.mp hmap
    obtain ⟨v, w, hv, hw, rfl⟩ := matches_seq_iff.mp (matches_andThen_iff.mp hu)
    exact ⟨v, w, ⟨d, hd, hv⟩, hw, rfl⟩
  · rintro ⟨v, w, ⟨d, hd, hv⟩, hw, rfl⟩
    exact ⟨_, List.mem_map_of_mem hd, matches_andThen_iff.mpr (.seq hv hw)⟩

/-- A sequence either begins inside its first part or, if that may be empty, inside its second. -/
theorem matches_seq_cons_iff :
    Matches (.seq a b) (c :: u) ↔
      (∃ v w, Matches a (c :: v) ∧ Matches b w ∧ u = v ++ w) ∨
        (Matches a [] ∧ Matches b (c :: u)) := by
  rw [matches_seq_iff]
  constructor
  · rintro ⟨v, w, ha, hb, h⟩
    cases v with
    | nil => exact .inr ⟨ha, by rw [h]; exact hb⟩
    | cons d v =>
      obtain ⟨rfl, rfl⟩ := List.cons.inj h
      exact .inl ⟨v, w, ha, hb, rfl⟩
  · rintro (⟨v, w, ha, hb, rfl⟩ | ⟨ha, hb⟩)
    · exact ⟨c :: v, w, ha, hb, rfl⟩
    · exact ⟨[], c :: u, ha, hb, rfl⟩

/-- **What a pattern becomes after one character.** A text that begins with the character matches
exactly if its rest matches one of the derivatives. -/
theorem matches_cons_iff : Matches r (c :: u) ↔ ∃ d ∈ r.derive c.toNat, Matches d u := by
  induction r generalizing u with
  | empty => simp [derive, matches_empty_iff]
  | set s =>
    simp only [derive, matches_set_iff, List.cons.injEq]
    constructor
    · rintro ⟨d, hd, rfl, rfl⟩
      rw [if_pos hd]
      exact ⟨.empty, List.mem_singleton_self _, .empty⟩
    · rintro ⟨d, hd, hm⟩
      split at hd
      · rename_i hc
        rw [List.mem_singleton.mp hd, matches_empty_iff] at hm
        exact ⟨c, hc, rfl, hm⟩
      · cases hd
  | seq a b iha ihb =>
    have hleft : (∃ v w, Matches a (c :: v) ∧ Matches b w ∧ u = v ++ w) ↔
        ∃ d ∈ (a.derive c.toNat).map (·.andThen b), Matches d u := by
      simp only [exists_mem_map_andThen_iff, iha]
    rw [matches_seq_cons_iff, hleft, ihb, ← nullable_iff]
    by_cases hn : a.nullable = true
    · simp [derive, hn, List.mem_append, or_and_right, exists_or]
    · simp [derive, hn]
  | alt a b iha ihb =>
    simp [derive, matches_alt_iff, iha, ihb, List.mem_append, or_and_right, exists_or]
  | star a iha =>
    simp only [derive, exists_mem_map_andThen_iff, ← iha]
    constructor
    · exact exists_round_of_matches_star
    · rintro ⟨v, w, ha, hrest, rfl⟩
      exact .again (u := c :: v) ha hrest

/-! ## Searching -/

theorem foundIn_nil_iff : r.FoundIn [] ↔ Matches r [] := by
  simp [FoundIn, List.infix_nil]

/-- A piece of a text begins at its first character or later. -/
theorem foundIn_cons_iff {text : List Char} :
    r.FoundIn (c :: text) ↔ (∃ u, u <+: c :: text ∧ Matches r u) ∨ r.FoundIn text := by
  simp only [FoundIn, List.infix_cons_iff, or_and_right, exists_or]

/-- One of the patterns matches the beginning of a text. -/
theorem exists_prefix_matches_iff (c : Char) (begun : List Lexeme) (text : List Char) :
    (∃ d ∈ begun, ∃ u, u <+: c :: text ∧ Matches d u) ↔
      begun.any nullable = true ∨
        ∃ d ∈ begun.flatMap (derive c.toNat), ∃ u, u <+: text ∧ Matches d u := by
  constructor
  · rintro ⟨d, hd, u, hu, hm⟩
    cases u with
    | nil => exact .inl (List.any_eq_true.mpr ⟨d, hd, nullable_iff.mpr hm⟩)
    | cons e u =>
      obtain ⟨rfl, hrest⟩ := List.cons_prefix_cons.mp hu
      obtain ⟨d', hd', hm'⟩ := matches_cons_iff.mp hm
      exact .inr ⟨d', List.mem_flatMap.mpr ⟨d, hd, hd'⟩, u, hrest, hm'⟩
  · rintro (h | ⟨d', hflat, u, hu, hm⟩)
    · obtain ⟨d, hd, hn⟩ := List.any_eq_true.mp h
      exact ⟨d, hd, [], List.nil_prefix, nullable_iff.mp hn⟩
    · obtain ⟨d, hd, hd'⟩ := List.mem_flatMap.mp hflat
      exact ⟨d, hd, c :: u, List.cons_prefix_cons.mpr ⟨rfl, hu⟩,
        matches_cons_iff.mpr ⟨d', hd', hm⟩⟩

/-- **Reading on.** With `r` begun at the first character, the search succeeds if `r` is found in
the text or a pattern that has begun before matches what comes next. -/
theorem occursFrom_cons_iff {begun : List Lexeme} {text : List Char} :
    occursFrom r (r :: begun) text = true ↔
      r.FoundIn text ∨ ∃ d ∈ begun, ∃ u, u <+: text ∧ Matches d u := by
  induction text generalizing begun with
  | nil =>
    simp [occursFrom, foundIn_nil_iff, nullable_iff, List.prefix_nil]
  | cons c rest ih =>
    have hprefix := exists_prefix_matches_iff c (r :: begun) rest
    simp only [List.mem_cons, exists_eq_or_imp] at hprefix
    simp only [occursFrom, Bool.or_eq_true, ih, foundIn_cons_iff, List.mem_eraseDups]
    rw [or_left_comm, ← hprefix, or_right_comm, or_comm]

/-- **Searching finds exactly the pieces that match.** -/
theorem occursIn_iff {text : List Char} : r.occursIn text = true ↔ r.FoundIn text := by
  rw [occursIn, occursFrom_cons_iff]
  simp

instance (r : Lexeme) (text : List Char) : Decidable (r.FoundIn text) :=
  decidable_of_iff _ occursIn_iff

end Lexeme

end Advisor.Grammar
