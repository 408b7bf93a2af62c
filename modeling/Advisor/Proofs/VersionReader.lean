import Advisor.Version
import Mathlib

/-!
# Which versions have a number that is too long

A version is read piece by piece, and a piece that is a number may have too many digits to be read.
`Stops` says of each step whether it ends so, and `read_eq_numberTooLong_iff` of a whole version:
it does exactly if it can be cut into pieces and one of its numbers is too long. In a comparison
this counts in the semantic order alone (`compareTexts_eq_numberTooLong_iff`).
-/

namespace Advisor.Version

variable {α β : Type} {p q : Prop}

/-! ## Steps that may stop -/

/-- The step ends with a number that is too long if `p` holds, and with a result if not. -/
def Stops (p : Prop) (x : Except ReadError α) : Prop :=
  (p ∧ x = .error .numberTooLong) ∨ (¬ p ∧ ∃ a, x = .ok a)

theorem Stops.eq_error_iff {x : Except ReadError α} (h : Stops p x) :
    x = .error .numberTooLong ↔ p := by
  rcases h with ⟨hp, rfl⟩ | ⟨hp, a, rfl⟩
  · exact ⟨fun _ => hp, fun _ => rfl⟩
  · refine ⟨?_, fun h => absurd h hp⟩
    intro h
    cases h

theorem stops_pure (a : α) : Stops False (pure a : Except ReadError α) := .inr ⟨id, a, rfl⟩

/-- **Two steps stop if one of them does.** -/
theorem Stops.bind {x : Except ReadError α} {f : α → Except ReadError β} (hx : Stops p x)
    (hf : ∀ a, Stops q (f a)) : Stops (p ∨ q) (x >>= f) := by
  rcases hx with ⟨hp, rfl⟩ | ⟨hp, a, rfl⟩
  · exact .inl ⟨.inl hp, rfl⟩
  · rcases hf a with ⟨hq, h⟩ | ⟨hq, b, h⟩
    · exact .inl ⟨.inr hq, h⟩
    · exact .inr ⟨not_or.mpr ⟨hp, hq⟩, b, h⟩

theorem Stops.map {x : Except ReadError α} (hx : Stops p x) (f : α → β) : Stops p (f <$> x) := by
  rcases hx with ⟨hp, rfl⟩ | ⟨hp, a, rfl⟩
  · exact .inl ⟨hp, rfl⟩
  · exact .inr ⟨hp, f a, rfl⟩

theorem Stops.congr {x : Except ReadError α} (hx : Stops p x) (h : q ↔ p) : Stops q x := by
  rwa [propext h]

/-- Steps for the entries of a list stop if one of them does. -/
theorem stops_mapM {P : α → Prop} {f : α → Except ReadError β} (hf : ∀ a, Stops (P a) (f a))
    (l : List α) : Stops (∃ a ∈ l, P a) (l.mapM f) := by
  induction l with
  | nil => exact (stops_pure []).congr (by simp)
  | cons a rest ih =>
    rw [List.mapM_cons]
    refine ((hf a).bind fun b => ih.bind fun bs => stops_pure (b :: bs)).congr ?_
    simp

/-- And so does a step for something that may be missing. -/
theorem stops_option {P : α → Prop} {f : α → Except ReadError β} (hf : ∀ a, Stops (P a) (f a))
    (o : Option α) : Stops (∃ a ∈ o.toList, P a) (o.mapM f) := by
  cases o with
  | none => exact (stops_pure none).congr (by simp)
  | some a => exact ((hf a).bind fun b => stops_pure (some b)).congr (by simp)

/-! ## Reading -/

theorem stops_number (ds : List Char) : Stops (Text.maxDigits < ds.length) (number ds) := by
  rw [number]
  split
  · rename_i h
    exact .inr ⟨Nat.not_lt.mpr h, _, rfl⟩
  · rename_i h
    exact .inl ⟨Nat.lt_of_not_le h, rfl⟩

theorem stops_numberOrZero (ds : List Char) :
    Stops (Text.maxDigits < ds.length) (numberOrZero ds) := by
  rw [numberOrZero]
  split
  · rename_i h
    rw [List.isEmpty_iff] at h
    exact .inr ⟨by simp [h], 0, rfl⟩
  · exact stops_number ds

theorem stops_localPart (part : List Char) :
    Stops (part.all Text.isAsciiDigit = true ∧ Text.maxDigits < part.length) (localPart part) := by
  rw [localPart]
  split
  · rename_i h
    exact ((stops_number part).map LocalPart.number).congr (and_iff_right h)
  · rename_i h
    exact .inr ⟨fun h' => h h'.1, _, rfl⟩

/-- The runs of digits that stand for numbers. A part of a local build is one if it has only
digits. -/
def Pieces.numbers (p : Pieces) : List (List Char) :=
  p.epoch :: p.release ++ (p.pre.map Prod.snd).toList ++ p.post.toList ++ p.dev.toList ++
    p.locals.filter (·.all Text.isAsciiDigit)

/-- **Piece by piece**, in the order in which they are written. -/
theorem read_of_pieces {text : String} {p : Pieces} (h : pieces? text = some p) :
    read text = (do
      let epoch ← numberOrZero p.epoch
      let release ← p.release.mapM number
      let pre ← p.pre.mapM fun mark => (mark.1, ·) <$> numberOrZero mark.2
      let post ← p.post.mapM numberOrZero
      let dev ← p.dev.mapM numberOrZero
      let locals ← p.locals.mapM localPart
      return { epoch, release, pre, post, dev, locals }) := by
  rw [read, h]
  obtain ⟨epoch, release, pre, post, dev, locals⟩ := p
  rcases pre with _ | ⟨stage, ds⟩ <;> cases post <;> cases dev <;>
    simp only [Option.mapM, pure_bind, bind_map_left]

theorem stops_read {text : String} {p : Pieces} (h : pieces? text = some p) :
    Stops (∃ ds ∈ p.numbers, Text.maxDigits < ds.length) (read text) := by
  rw [read_of_pieces h]
  have hpre : ∀ mark : Stage × List Char,
      Stops (Text.maxDigits < mark.2.length) ((mark.1, ·) <$> numberOrZero mark.2) :=
    fun mark => (stops_numberOrZero mark.2).map _
  refine ((stops_numberOrZero p.epoch).bind fun epoch =>
    (stops_mapM stops_number p.release).bind fun release =>
    (stops_option hpre p.pre).bind fun pre =>
    (stops_option stops_numberOrZero p.post).bind fun post =>
    (stops_option stops_numberOrZero p.dev).bind fun dev =>
    (stops_mapM stops_localPart p.locals).bind fun locals => stops_pure _).congr ?_
  simp only [Pieces.numbers, Option.toList_map, List.mem_append, List.mem_cons, List.mem_filter,
    List.mem_map, or_and_right, exists_or, exists_eq_left, exists_exists_and_eq_and, or_assoc,
    and_assoc, or_false]

/-- **When a number is too long**: the text is a version, and one of the runs of digits in it that
stand for numbers has more of them than are read. -/
theorem read_eq_numberTooLong_iff {text : String} :
    read text = .error .numberTooLong ↔
      ∃ p, pieces? text = some p ∧ ∃ ds ∈ p.numbers, Text.maxDigits < ds.length := by
  cases h : pieces? text with
  | none => simp [read, h]
  | some p =>
    rw [(stops_read h).eq_error_iff]
    simp

/-! ## Plain releases -/

theorem digit_bounds {c : Char} (h : Text.isAsciiDigit c = true) :
    48 ≤ c.toNat ∧ c.toNat ≤ 57 := by
  simpa [Text.isAsciiDigit, Char.le_def, UInt32.le_iff_toNat_le] using h

/-- A run of digits. -/
structure IsNumeral (ds : List Char) : Prop where
  ne_nil : ds ≠ []
  digits : ∀ c ∈ ds, Text.isAsciiDigit c = true

/-- Numerals with points between them. -/
def dotted (numerals : List (List Char)) : String := String.ofList (['.'].intercalate numerals)

theorem toList_dotted (first : List Char) (more : List (List Char)) :
    (dotted (first :: more)).toList = first ++ more.flatMap ('.' :: ·) := by
  rw [dotted, String.toList_ofList]
  induction more generalizing first with
  | nil => simp
  | cons ds rest ih =>
    rw [List.intercalate_cons_cons, ih, List.flatMap_cons, List.append_assoc]
    rfl

theorem digits_append {ds rest : List Char} (hds : ∀ c ∈ ds, Text.isAsciiDigit c = true)
    (hrest : ∀ c ∈ rest.head?, Text.isAsciiDigit c = false) : digits (ds ++ rest) = (ds, rest) := by
  rw [digits, List.span_eq_takeWhile_dropWhile, List.takeWhile_append_of_pos hds,
    List.dropWhile_append_of_pos hds]
  cases rest with
  | nil => simp
  | cons c rest => simp [hrest c rfl]

/-- Behind a numeral comes a point or nothing, and none of them is a digit. -/
theorem digits_append_flatMap {ds : List Char} (hds : IsNumeral ds) (more : List (List Char)) :
    digits (ds ++ more.flatMap ('.' :: ·)) = (ds, more.flatMap ('.' :: ·)) := by
  refine digits_append hds.digits fun c hc => ?_
  cases more with
  | nil => cases hc
  | cons es rest =>
    cases hc
    decide

theorem segments_flatMap {more : List (List Char)} (h : ∀ ds ∈ more, IsNumeral ds) {fuel : Nat}
    (hfuel : more.length ≤ fuel) : segments fuel (more.flatMap ('.' :: ·)) = (more, []) := by
  induction more generalizing fuel with
  | nil => cases fuel <;> rfl
  | cons ds rest ih =>
    obtain ⟨hds, hrest⟩ := List.forall_mem_cons.mp h
    obtain ⟨fuel, rfl⟩ : ∃ n, fuel = n + 1 := ⟨fuel - 1, by simp at hfuel; omega⟩
    have hmore := ih hrest (Nat.le_of_succ_le_succ hfuel)
    obtain ⟨c, cs, rfl⟩ := List.exists_cons_of_ne_nil hds.ne_nil
    rw [List.flatMap_cons, List.cons_append, segments]
    simp only [digits_append_flatMap hds rest, hmore]

/-- **A plain release** has its numerals for pieces and nothing else. -/
theorem pieces?_dotted {first : List Char} {more : List (List Char)} (hfirst : IsNumeral first)
    (hmore : ∀ ds ∈ more, IsNumeral ds) :
    pieces? (dotted (first :: more)) = some ⟨[], first :: more, none, none, none, []⟩ := by
  obtain ⟨c, cs, rfl⟩ := List.exists_cons_of_ne_nil hfirst.ne_nil
  have hc := digit_bounds (hfirst.digits c List.mem_cons_self)
  have hblank : Text.isBlank c = false := by
    simp [Text.isBlank]
    omega
  have hv : (c == 'v' || c == 'V') = false := by
    rw [Bool.or_eq_false_iff, beq_eq_false_iff_ne, beq_eq_false_iff_ne]
    constructor <;> (rintro rfl; simp at hc)
  have hlength : more.length ≤ (more.flatMap ('.' :: ·)).length := by
    rw [List.length_flatMap]
    simp
  have hdigits := digits_append_flatMap hfirst more
  have hsegments := segments_flatMap hmore hlength
  have htext := toList_dotted (c :: cs) more
  have hpoint : more.flatMap ('.' :: ·) = [] ∨ ∃ rest, more.flatMap ('.' :: ·) = '.' :: rest := by
    cases more with
    | nil => exact .inl rfl
    | cons ds rest => exact .inr ⟨_, rfl⟩
  have hpre : mark stageWords [] = none := rfl
  have hpost : mark [("post", ()), ("rev", ()), ("r", ())] [] = none := rfl
  have hdev : mark [("dev", ())] [] = none := rfl
  generalize more.flatMap ('.' :: ·) = rest at hdigits hsegments htext hpoint
  rw [List.cons_append] at htext hdigits
  rcases hpoint with rfl | ⟨rest, rfl⟩
  · rw [List.append_nil] at htext hdigits
    rw [List.length_nil] at hsegments
    simp [pieces?, htext, hblank, hv, hdigits, hsegments, hpre, hpost, hdev]
  · rw [List.length_cons] at hsegments
    simp [pieces?, htext, hblank, hv, hdigits, hsegments, hpre, hpost, hdev]

/-- Nothing but digits: a release of one number. -/
theorem pieces?_nines (n : Nat) :
    pieces? (String.ofList (List.replicate (n + 1) '9')) =
      some ⟨[], [List.replicate (n + 1) '9'], none, none, none, []⟩ := by
  have hnines : IsNumeral (List.replicate (n + 1) '9') := by
    refine ⟨by simp, fun c hc => ?_⟩
    rw [List.eq_of_mem_replicate hc]
    rfl
  have hpieces := pieces?_dotted hnines (List.forall_mem_nil IsNumeral)
  rwa [dotted, List.intercalate_singleton] at hpieces

/-! ## Comparing -/

/-- **When a comparison breaks off**, if the threshold is itself a version that can be read: in the
semantic order, for a version with a number that is too long. -/
theorem compareTexts_eq_numberTooLong_iff {version threshold : String} {scheme : VersionScheme}
    {t : Version} (ht : read threshold = .ok t) :
    compareTexts version threshold scheme = .numberTooLong ↔
      scheme = .semantic ∧ read version = .error .numberTooLong := by
  cases scheme with
  | lexical =>
    simp only [compareTexts]
    split <;> simp
  | semantic =>
    simp only [compareTexts, true_and]
    cases hv : read version with
    | error e => cases e <;> simp
    | ok v =>
      simp only [ht]
      split <;> simp

end Advisor.Version
