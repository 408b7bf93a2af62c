import Advisor.Suppression
import Mathlib

/-!
# Signs without regard to case

Letters are compared by the small forms that a table of runs gives. `Caseless` says by a rule which
characters count as a sign: the sign itself, its capital, and four characters beyond ASCII that fold
to a letter. `isLetter_iff` and `isListChar_iff` say that the table has these and no others, so what
follows about directives never looks at the table again.
-/

namespace Advisor

namespace Text

/-! ## The table of small forms -/

/-- The runs that take something into the interval from `lo` to `hi`. -/
def reaching (lo hi : Nat) : List Nat → List Nat
  | first :: last :: step :: image :: rest =>
    if image ≤ hi && lo ≤ image + (last - first) then
      first :: last :: step :: image :: reaching lo hi rest
    else reaching lo hi rest
  | _ => []

/-- The other runs do not matter for an image in the interval. -/
theorem shifted_reaching {runs : List Nat} {lo hi n m : Nat} (hlo : lo ≤ m) (hhi : m ≤ hi)
    (h : shifted runs n = some m) : shifted (reaching lo hi runs) n = some m := by
  fun_induction shifted runs n with
  | case1 first last step image rest n hin =>
    obtain rfl := Option.some.inj h
    have hin' := hin
    simp only [Bool.and_eq_true, decide_eq_true_eq] at hin'
    have hmeets : (image ≤ hi && lo ≤ image + (last - first)) = true := by
      simp only [Bool.and_eq_true, decide_eq_true_eq]
      omega
    rw [reaching, if_pos hmeets, shifted, if_pos hin]
  | case2 first last step image rest n hout ih =>
    rw [reaching]
    split
    · rw [shifted, if_neg hout]
      exact ih h
    · exact ih h
  | case3 => cases h

/-- The capitals of ASCII and the Kelvin sign have their small forms in ASCII. -/
theorem reaching_ascii :
    reaching 0 127 lowerRuns = [0x41, 0x5a, 1, 0x61, 0x212a, 0x212a, 1, 0x6b] := by
  decide +kernel

theorem reaching_dotless : reaching 0x131 0x131 lowerRuns = [] := by decide +kernel

theorem reaching_long : reaching 0x17f 0x17f lowerRuns = [] := by decide +kernel

theorem forall_ascii {P : Char → Prop} (h : ∀ n < 128, P (Char.ofNat n)) {c : Char}
    (hc : c.toNat < 128) : P c := by
  simpa only [Char.ofNat_toNat] using h c.toNat hc

theorem eq_toNat_of_ofNat {m : Nat} {c : Char} (hc : 0 < c.toNat) (h : Char.ofNat m = c) :
    m = c.toNat := by
  rw [← h, Char.toNat_ofNat] at hc ⊢
  split at hc
  · rw [if_pos ‹_›]
  · exact absurd hc (Nat.lt_irrefl 0)

/-- **How a character folds**: within ASCII to the small letter, the dotted capital to the plain i,
and beyond ASCII by the runs or to itself. -/
theorem foldChar_cases (c : Char) :
    c.toNat < 128 ∧ foldChar c = c.toLower ∨ c = 'İ' ∧ foldChar c = 'i' ∨
      128 ≤ c.toNat ∧ (foldChar c = c ∨
        ∃ m, shifted lowerRuns c.toNat = some m ∧ foldChar c = Char.ofNat m) := by
  by_cases hc : c.toNat < 128
  · exact .inl ⟨hc, if_pos hc⟩
  · by_cases hdot : c = 'İ'
    · exact .inr (.inl ⟨hdot, hdot ▸ by decide +kernel⟩)
    · refine .inr (.inr ⟨Nat.le_of_not_lt hc, ?_⟩)
      simp only [foldChar, if_neg hc, beq_iff_eq, if_neg hdot]
      cases shifted lowerRuns c.toNat with
      | none => exact .inl rfl
      | some m => exact .inr ⟨m, rfl, rfl⟩

/-- A small form beyond ASCII that no run reaches is the form of itself alone. -/
theorem eq_of_foldChar {c : Char} (hbeyond : 128 ≤ (foldChar c).toNat)
    (hreach : reaching (foldChar c).toNat (foldChar c).toNat lowerRuns = []) : foldChar c = c := by
  rcases foldChar_cases c with ⟨hc, hfold⟩ | ⟨-, hfold⟩ | ⟨-, hself | ⟨m, hm, hfold⟩⟩
  · have hlt : c.toLower.toNat < 128 :=
      forall_ascii (P := fun c => c.toLower.toNat < 128) (by decide +kernel) hc
    rw [hfold] at hbeyond
    omega
  · exact absurd (hfold ▸ hbeyond) (by decide)
  · exact hself
  · have hm' := eq_toNat_of_ofNat (by omega) hfold.symm
    have := shifted_reaching (Nat.le_refl m) (Nat.le_refl m) hm
    rw [hm', hreach] at this
    cases this

/-- From beyond ASCII the dotted capital and the Kelvin sign fold into it. -/
theorem eq_of_foldChar_lt {c : Char} (hpos : 0 < (foldChar c).toNat)
    (hlt : (foldChar c).toNat < 128) :
    c.toNat < 128 ∧ foldChar c = c.toLower ∨ c = 'İ' ∧ foldChar c = 'i' ∨
      c = '\u212a' ∧ foldChar c = 'k' := by
  rcases foldChar_cases c with h | h | ⟨hc, hself | ⟨m, hm, hfold⟩⟩
  · exact .inl h
  · exact .inr (.inl h)
  · rw [hself] at hlt
    omega
  · have hm' := eq_toNat_of_ofNat hpos hfold.symm
    have hrun := shifted_reaching (Nat.zero_le m) (by omega : m ≤ 127) hm
    rw [reaching_ascii] at hrun
    have hkelvin : c.toNat = 0x212a := by grind [shifted]
    have hc : c = '\u212a' := by rw [← Char.ofNat_toNat c, hkelvin]
    exact .inr (.inr ⟨hc, hc ▸ by decide +kernel⟩)

end Text

/-! ## Cases of a sign -/

/-- The character counts as the sign: they are the same but for case. -/
inductive Caseless : Char → Char → Prop
  | same (sign : Char) : Caseless sign sign
  | capital (sign : Char) : Caseless sign sign.toUpper
  | dotted : Caseless 'i' 'İ'
  | dotless : Caseless 'i' 'ı'
  | long : Caseless 's' 'ſ'
  | kelvin : Caseless 'k' '\u212a'

/-- Signs of ASCII that are no capitals. -/
structure IsSign (c : Char) : Prop where
  pos : 0 < c.toNat
  lt : c.toNat < 128
  small : c.toLower = c

namespace Suppression

open Advisor.Text

variable {sign c : Char}

/-- A character of ASCII is its small form or the capital of it. -/
theorem caseless_toLower (hc : c.toNat < 128) : Caseless c.toLower c := by
  have h : c = c.toLower ∨ c = c.toLower.toUpper :=
    forall_ascii (P := fun c => c = c.toLower ∨ c = c.toLower.toUpper) (by decide +kernel) hc
  rcases h with h | h
  · rw [← h]; exact .same c
  · conv => arg 2; rw [h]
    exact .capital _

theorem foldChar_toUpper (h : IsSign sign) : foldChar sign.toUpper = sign := by
  have hall : sign.toLower = sign → sign.toUpper.toNat < 128 ∧ sign.toUpper.toLower = sign :=
    forall_ascii (P := fun c => c.toLower = c → c.toUpper.toNat < 128 ∧ c.toUpper.toLower = c)
      (by decide +kernel) h.lt
  obtain ⟨hlt, hlower⟩ := hall h.small
  exact (if_pos hlt).trans hlower

/-- **The cases of a sign** are those that the table of small forms has. -/
theorem isLetter_iff (h : IsSign sign) : isLetter sign c = true ↔ Caseless sign c := by
  constructor
  · simp only [isLetter, Bool.or_eq_true, Bool.and_eq_true, beq_iff_eq]
    rintro ((rfl | ⟨rfl, hfold⟩) | ⟨rfl, hfold⟩)
    · rcases eq_of_foldChar_lt h.pos h.lt with ⟨hc, hfold⟩ | ⟨rfl, hfold⟩ | ⟨rfl, hfold⟩
      · rw [hfold]; exact caseless_toLower hc
      · rw [hfold]; exact .dotted
      · rw [hfold]; exact .kelvin
    · have hc := @eq_of_foldChar c (hfold ▸ by decide) (hfold ▸ reaching_dotless)
      rw [← hc, hfold]; exact .dotless
    · have hc := @eq_of_foldChar c (hfold ▸ by decide) (hfold ▸ reaching_long)
      rw [← hc, hfold]; exact .long
  · rintro (_ | _ | _ | _ | _ | _)
    · have hfold : foldChar sign = sign := (if_pos h.lt).trans h.small
      simp [isLetter, hfold]
    · simp [isLetter, foldChar_toUpper h]
    all_goals decide +kernel

theorem isSign_of_all {signs : List Char}
    (h : signs.all (fun c => 0 < c.toNat && c.toNat < 128 && c.toLower == c) = true) :
    ∀ sign ∈ signs, IsSign sign := by
  intro sign hmem
  have hsign := List.all_eq_true.mp h sign hmem
  simp only [Bool.and_eq_true, decide_eq_true_eq, beq_iff_eq] at hsign
  exact ⟨hsign.1.1, hsign.1.2, hsign.2⟩

theorem isSign_of_mem_marker : ∀ sign ∈ marker, IsSign sign := isSign_of_all (by decide)

/-! ## The characters of a list -/

/-- The signs that a list of rules is written with. -/
def listSigns : List Char := "abcdefghijklmnopqrstuvwxyz0123456789_, -".toList

theorem isSign_of_mem_listSigns : ∀ sign ∈ listSigns, IsSign sign := isSign_of_all (by decide)

/-- A character of ASCII is a sign of lists if it is in one of the intervals. -/
theorem mem_listSigns_iff : c ∈ listSigns ↔
    ('a' ≤ c ∧ c ≤ 'z' ∨ '0' ≤ c ∧ c ≤ '9') ∨ c = '_' ∨ c = ',' ∨ c = ' ' ∨ c = '-' := by
  by_cases hc : c.toNat < 128
  · exact forall_ascii (P := fun c => c ∈ listSigns ↔
      ('a' ≤ c ∧ c ≤ 'z' ∨ '0' ≤ c ∧ c ≤ '9') ∨ c = '_' ∨ c = ',' ∨ c = ' ' ∨ c = '-')
      (by decide +kernel) hc
  · refine iff_of_false (fun hmem => hc (isSign_of_mem_listSigns c hmem).lt) ?_
    rintro ((⟨-, h⟩ | ⟨-, h⟩) | rfl | rfl | rfl | rfl)
    · exact hc (Nat.lt_of_le_of_lt (UInt32.le_iff_toNat_le.mp h) (by decide))
    · exact hc (Nat.lt_of_le_of_lt (UInt32.le_iff_toNat_le.mp h) (by decide))
    all_goals exact hc (by decide)

/-- **The characters of a list** are the cases of its signs. -/
theorem isListChar_iff : isListChar c = true ↔ ∃ sign ∈ listSigns, Caseless sign c := by
  have hchars : isListChar c = true ↔
      foldChar c ∈ listSigns ∨ foldChar c = 'ı' ∨ foldChar c = 'ſ' := by
    simp only [isListChar, mem_listSigns_iff, Bool.or_eq_true, Bool.and_eq_true, decide_eq_true_eq,
      beq_iff_eq, or_assoc]
  have hletter : isListChar c = true ↔ ∃ sign ∈ listSigns, isLetter sign c = true := by
    simp only [hchars, isLetter, Bool.or_eq_true, Bool.and_eq_true, beq_iff_eq]
    constructor
    · rintro (h | h | h)
      · exact ⟨_, h, .inl (.inl rfl)⟩
      · exact ⟨'i', by decide, .inl (.inr ⟨rfl, h⟩)⟩
      · exact ⟨'s', by decide, .inr ⟨rfl, h⟩⟩
    · rintro ⟨sign, hsign, (rfl | ⟨-, h⟩) | ⟨-, h⟩⟩
      · exact .inl hsign
      · exact .inr (.inl h)
      · exact .inr (.inr h)
  rw [hletter]
  exact exists_congr fun sign => and_congr_right fun hsign =>
    isLetter_iff (isSign_of_mem_listSigns sign hsign)

/-- No character of a list becomes a star in capitals. -/
theorem star_not_mem_upperChar (h : isListChar c = true) : '*' ∉ upperChar c := by
  obtain ⟨sign, hsign, hc⟩ := isListChar_iff.mp h
  have hall : listSigns.all (fun sign =>
      !(upperChar sign).contains '*' && !(upperChar sign.toUpper).contains '*') = true := by
    decide +kernel
  have hstar := List.all_eq_true.mp hall sign hsign
  simp only [Bool.and_eq_true, Bool.not_eq_true', List.contains_eq_mem, decide_eq_false_iff_not]
    at hstar
  cases hc with
  | same => exact hstar.1
  | capital => exact hstar.2
  | dotted => decide +kernel
  | dotless => decide +kernel
  | long => decide +kernel
  | kelvin => decide +kernel

end Suppression

end Advisor
