import Advisor.Json.Reader
import Mathlib

/-!
# JSON values that are read as a whole

Strings, numbers and words. `readScalar_cases` says all that the reader of nested values needs to
know of them: either they are malformed, and nothing else, or they leave a shorter text.
-/

namespace Advisor.Json

variable {cs rest : List Char} {e : ReadError}

theorem length_skipSpace_le (cs : List Char) : (skipSpace cs).length ≤ cs.length :=
  (List.dropWhile_sublist _).length_le

theorem length_lt_of_readString {acc : List Char} {s : String}
    (h : readString acc cs = .ok (s, rest)) : rest.length < cs.length := by
  fun_induction readString acc cs with
  | case1 acc rest' =>
    cases h
    exact Nat.lt_succ_self _
  | case2 | case6 | case7 | case9 => cases h
  | case3 acc a b c d rest' n _ m _ ih =>
    have := ih h
    rw [List.length_drop] at this
    simp only [List.length_cons]
    omega
  | case4 acc a b c d rest' n _ _ ih =>
    have := ih h
    simp only [List.length_cons]
    omega
  | case5 acc c rest' _ e _ ih =>
    have := ih h
    simp only [List.length_cons]
    omega
  | case8 acc c rest' _ _ _ _ ih => exact Nat.lt_succ_of_lt (ih h)

theorem eq_malformed_of_readString {acc : List Char} (h : readString acc cs = .error e) :
    e = .malformed := by
  fun_induction readString acc cs with
  | case1 => cases h
  | case2 | case6 | case7 | case9 =>
    cases h
    rfl
  | case3 _ _ _ _ _ _ _ _ _ _ ih => exact ih h
  | case4 _ _ _ _ _ _ _ _ _ ih => exact ih h
  | case5 _ _ _ _ _ _ ih => exact ih h
  | case8 _ _ _ _ _ _ _ ih => exact ih h

/-- A character that stands for itself in a string. -/
def isPlain (c : Char) : Bool := c != '"' && c != '\\' && 0x20 ≤ c.toNat

theorem readString_of_isPlain {c : Char} (hc : isPlain c = true) (acc rest : List Char) :
    readString acc (c :: rest) = readString (c :: acc) rest := by
  simp only [isPlain, Bool.and_eq_true, bne_iff_ne, ne_eq, decide_eq_true_eq] at hc
  obtain ⟨⟨hquote, hslash⟩, hcontrol⟩ := hc
  rw [readString]
  · have hplain : (decide (c.toNat < 0x20) || c == '\\') = false := by simp [hslash, hcontrol]
    rw [hplain, if_neg Bool.false_ne_true]
  -- neither the end of the string nor an escape
  · exact hquote
  · exact fun _ _ _ _ _ h _ => hslash h
  · exact fun _ _ h _ => hslash h

/-- **Plain strings are read as they are written.** -/
theorem readString_plain {ds : List Char} (hds : ds.all isPlain = true) (acc rest : List Char) :
    readString acc (ds ++ '"' :: rest) = .ok (String.ofList (acc.reverse ++ ds), rest) := by
  induction ds generalizing acc with
  | nil => rw [List.nil_append, readString, List.append_nil]
  | cons d ds ih =>
    rw [List.all_cons, Bool.and_eq_true] at hds
    rw [List.cons_append, readString_of_isPlain hds.1, ih hds.2, List.reverse_cons,
      List.append_assoc]
    rfl

theorem length_of_span_eq {p : Char → Bool} {front : List Char} (h : cs.span p = (front, rest)) :
    front.length + rest.length = cs.length := by
  rw [List.span_eq_takeWhile_dropWhile] at h
  cases h
  rw [← List.length_append, List.takeWhile_append_dropWhile]

/-- Digits that may be missing: then nothing is taken at all. -/
theorem length_optional_le {back : List Char} (f : List Char → List Char)
    (h : cs.length ≤ back.length) :
    (match cs.span Text.isAsciiDigit with
      | ([], _) => ([], back)
      | (digits, rest) => (f digits, rest)).2.length ≤ back.length := by
  split
  · exact Nat.le_refl _
  · rename_i hspan
    have := length_of_span_eq hspan
    dsimp only
    omega

theorem length_fraction_le (cs : List Char) : (fraction cs).2.length ≤ cs.length := by
  unfold fraction
  split
  · exact length_optional_le ('.' :: ·) (Nat.le_succ _)
  · exact Nat.le_refl _

theorem length_exponent_le (cs : List Char) : (exponent cs).2.length ≤ cs.length := by
  unfold exponent
  split
  · rename_i c rest
    split
    · split
      · exact length_optional_le ([c, '+'] ++ ·) (Nat.le_add_right _ 2)
      · exact length_optional_le ([c, '-'] ++ ·) (Nat.le_add_right _ 2)
      · exact length_optional_le ([c] ++ ·) (Nat.le_succ _)
    · exact Nat.le_refl _
  · exact Nat.le_refl _

/-- The parts of a number one after the other. -/
theorem length_lt_of_parts {whole frac exp rest' rest'' : List Char} (hne : ¬ whole.isEmpty = true)
    (hwhole : whole.length + rest.length = cs.length) (hfrac : fraction rest = (frac, rest'))
    (hexp : exponent rest' = (exp, rest'')) : rest''.length < cs.length := by
  have hpos := List.length_pos_iff.mpr (mt List.isEmpty_iff.mpr hne)
  have hfraction := length_fraction_le rest
  have hexponent := length_exponent_le rest'
  rw [hfrac] at hfraction
  rw [hexp] at hexponent
  dsimp only at hfraction hexponent
  omega

/-- **How the reading of a number ends.** -/
theorem readNumber_cases (negative : Bool) (cs : List Char) :
    readNumber negative cs = .error .malformed ∨
      ∃ v rest, readNumber negative cs = .ok (v, rest) ∧ rest.length < cs.length := by
  fun_cases readNumber negative cs with
  | case1 | case3 => exact .inl rfl
  | case2 whole rest hwhole hne frac rest' hfrac exp rest'' hexp
  | case4 whole rest hwhole hne frac rest' hfrac exp rest'' hexp =>
    -- a zero stands alone, and any other digit with those that follow it
    have htaken : whole.length + rest.length = cs.length := by
      split at hwhole
      · cases hwhole
        exact Nat.add_comm ..
      · exact length_of_span_eq hwhole
    exact .inr ⟨_, _, rfl, length_lt_of_parts hne htaken hfrac hexp⟩

theorem eq_append_of_word? {word : String} (h : Text.word? word cs = some rest) :
    cs = word.toList ++ rest := by
  unfold Text.word? at h
  generalize word.toList = w at h
  induction w generalizing cs with
  | nil =>
    cases h
    rfl
  | cons c w ih =>
    cases cs with
    | nil => cases h
    | cons d cs =>
      simp only [List.isPrefixOf?] at h
      split at h
      · rename_i hcd
        rw [ih h, eq_of_beq hcd]
        rfl
      · cases h

theorem length_lt_of_word? (word : String) (hword : word.toList ≠ [])
    (h : Text.word? word cs = some rest) : rest.length < cs.length := by
  have := List.length_pos_iff.mpr hword
  rw [eq_append_of_word? h, List.length_append]
  omega

/-- **How the reading of any value ends that is neither list nor object.** -/
theorem readScalar_cases (cs : List Char) :
    readScalar cs = .error .malformed ∨
      ∃ v rest, readScalar cs = .ok (v, rest) ∧ rest.length < cs.length := by
  unfold readScalar
  split
  · rename_i back
    cases h : readString [] back with
    | error e =>
      cases eq_malformed_of_readString h
      exact .inl rfl
    | ok r => exact .inr ⟨_, _, rfl, Nat.lt_succ_of_lt (length_lt_of_readString h)⟩
  · rename_i back
    split
    · exact .inr ⟨_, _, rfl, Nat.lt_succ_of_lt (length_lt_of_word? "Infinity" (by decide) ‹_›)⟩
    · rcases readNumber_cases true back with h | ⟨v, rest, h, hlt⟩
      · exact .inl h
      · exact .inr ⟨v, rest, h, Nat.lt_succ_of_lt hlt⟩
  · split
    · exact .inr ⟨_, _, rfl, length_lt_of_word? "null" (by decide) ‹_›⟩
    · exact .inr ⟨_, _, rfl, length_lt_of_word? "true" (by decide) ‹_›⟩
    · exact .inr ⟨_, _, rfl, length_lt_of_word? "false" (by decide) ‹_›⟩
    · exact .inr ⟨_, _, rfl, length_lt_of_word? "NaN" (by decide) ‹_›⟩
    · exact .inr ⟨_, _, rfl, length_lt_of_word? "Infinity" (by decide) ‹_›⟩
    · exact readNumber_cases false cs

end Advisor.Json
