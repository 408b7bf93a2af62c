import Advisor.Scan.Files
import Advisor.Text.Utf8
import Mathlib

/-!
# Reading UTF-8

The bytes of a text are read back as that text, by the reading that puts up with anything and by
the one that refuses what is no UTF-8 (`decode_utf8Encode`, `decodeStrict_utf8Encode`).
-/

namespace Advisor.Text

/-! ## One character -/

/-- With the bound as a number, so that arithmetic can show it. -/
theorem toNat_ofNat_of_lt {n : Nat} (h : n < 256) : (UInt8.ofNat n).toNat = n :=
  UInt8.toNat_ofNat_of_lt' h

theorem isTail_iff {b : UInt8} : isTail b = true ↔ 0x80 ≤ b.toNat ∧ b.toNat ≤ 0xbf := by
  simp [isTail, UInt8.le_iff_toNat_le]

/-- Bytes that continue a character, each with the last six bits of a number. -/
def tailBytes (ns : List Nat) : List UInt8 := ns.map fun n => UInt8.ofNat (n % 64 + 128)

theorem isTail_ofNat (n : Nat) : isTail (UInt8.ofNat (n % 64 + 128)) = true := by
  rw [isTail_iff, toNat_ofNat_of_lt (by omega)]
  omega

theorem readTails_tailBytes (ns : List Nat) (value : Nat) (rest : List UInt8) :
    readTails ns.length value (tailBytes ns ++ rest) =
      (ns.length, ns.foldl (fun v n => v * 64 + n % 64) value) := by
  induction ns generalizing value with
  | nil => rfl
  | cons n ns ih =>
    have hbits : (UInt8.ofNat (n % 64 + 128)).toNat % 64 = n % 64 := by
      rw [toNat_ofNat_of_lt (by omega)]
      omega
    rw [tailBytes, List.map_cons, List.cons_append, List.length_cons, readTails,
      if_pos (isTail_ofNat n), hbits, ← tailBytes, ih]
    rfl

section Lead

variable {b second : UInt8}

/-- How a character begins, by the number of its first byte. -/
theorem leadShape_eq (b : UInt8) :
    leadShape b =
      if b.toNat < 0x80 then some (0, 0, 0)
      else if 0xc2 ≤ b.toNat ∧ b.toNat ≤ 0xdf then some (1, 0x80, 0xbf)
      else if b.toNat = 0xe0 then some (2, 0xa0, 0xbf)
      else if b.toNat = 0xed then some (2, 0x80, 0x9f)
      else if 0xe1 ≤ b.toNat ∧ b.toNat ≤ 0xef then some (2, 0x80, 0xbf)
      else if b.toNat = 0xf0 then some (3, 0x90, 0xbf)
      else if 0xf1 ≤ b.toNat ∧ b.toNat ≤ 0xf3 then some (3, 0x80, 0xbf)
      else if b.toNat = 0xf4 then some (3, 0x80, 0x8f)
      else none := by
  simp [leadShape, UInt8.lt_iff_toNat_lt, UInt8.le_iff_toNat_le, ← UInt8.toNat_inj]

/-- A first byte with so many bytes to come, the second of them within its bounds. -/
def Leads (b second : UInt8) (tails : Nat) : Prop :=
  ∃ lo hi : UInt8, leadShape b = some (tails, lo, hi) ∧ lo.toNat ≤ second.toNat ∧
    second.toNat ≤ hi.toNat

theorem leads_one (hb : 0xc2 ≤ b.toNat ∧ b.toNat ≤ 0xdf) (hsecond : isTail second = true) :
    Leads b second 1 := by
  refine ⟨0x80, 0xbf, ?_, isTail_iff.mp hsecond⟩
  rw [leadShape_eq, if_neg (by omega), if_pos hb]

/-- The second of three bytes has a bound of its own where the first one is the least, or where
half pairs would begin. -/
theorem leads_two (hb : 0xe0 ≤ b.toNat ∧ b.toNat ≤ 0xef) (hsecond : isTail second = true)
    (hleast : b.toNat = 0xe0 → 0xa0 ≤ second.toNat) (hhalf : b.toNat = 0xed → second.toNat ≤ 0x9f) :
    Leads b second 2 := by
  rw [isTail_iff] at hsecond
  rw [Leads, leadShape_eq, if_neg (by omega), if_neg (by omega)]
  split
  · exact ⟨0xa0, 0xbf, rfl, hleast ‹_›, hsecond.2⟩
  · split
    · exact ⟨0x80, 0x9f, rfl, hsecond.1, hhalf ‹_›⟩
    · rw [if_pos (by omega)]
      exact ⟨0x80, 0xbf, rfl, hsecond⟩

/-- And the second of four where the first one is the least or the greatest. -/
theorem leads_three (hb : 0xf0 ≤ b.toNat ∧ b.toNat ≤ 0xf4) (hsecond : isTail second = true)
    (hleast : b.toNat = 0xf0 → 0x90 ≤ second.toNat)
    (hgreatest : b.toNat = 0xf4 → second.toNat ≤ 0x8f) : Leads b second 3 := by
  rw [isTail_iff] at hsecond
  rw [Leads, leadShape_eq, if_neg (by omega), if_neg (by omega), if_neg (by omega),
    if_neg (by omega), if_neg (by omega)]
  split
  · exact ⟨0x90, 0xbf, rfl, hleast ‹_›, hsecond.2⟩
  · split
    · exact ⟨0x80, 0xbf, rfl, hsecond⟩
    · rw [if_pos (by omega)]
      exact ⟨0x80, 0x8f, rfl, hsecond.1, hgreatest (by omega)⟩

end Lead

/-- **A character of several bytes.** -/
theorem readChar_tailBytes {b : UInt8} {n : Nat} {more : List Nat} {c : Char}
    (hlead : Leads b (UInt8.ofNat (n % 64 + 128)) (more.length + 1))
    (hvalue : (n :: more).foldl (fun v n => v * 64 + n % 64) (leadBits b (more.length + 1)) =
      c.toNat) (rest : List UInt8) :
    readChar b (tailBytes (n :: more) ++ rest) = (some c, (tailBytes (n :: more)).length) := by
  obtain ⟨lo, hi, hshape, hbounds⟩ := hlead
  have hread := readTails_tailBytes (n :: more) (leadBits b (more.length + 1)) rest
  have hin : (decide (lo ≤ UInt8.ofNat (n % 64 + 128)) &&
      decide (UInt8.ofNat (n % 64 + 128) ≤ hi)) = true := by
    simpa only [Bool.and_eq_true, decide_eq_true_eq, UInt8.le_iff_toNat_le] using hbounds
  rw [hvalue, List.length_cons] at hread
  rw [readChar, hshape]
  simp only [tailBytes, List.map_cons, List.cons_append] at hread ⊢
  rw [if_pos hin, hread, Char.ofNat_toNat]
  simp

/-- **The bytes of a character are read as that character**, whatever comes after them. -/
theorem readChar_utf8EncodeChar (c : Char) :
    ∃ b tails, String.utf8EncodeChar c = b :: tails ∧
      ∀ rest, readChar b (tails ++ rest) = (some c, tails.length) := by
  have hvalid : c.toNat < 0xd800 ∨ (0xdfff < c.toNat ∧ c.toNat < 0x110000) := c.valid
  have hval : c.val.toNat = c.toNat := rfl
  -- one, two, three or four bytes, by the size of the code point
  rw [String.utf8EncodeChar, hval]
  split
  · have hb := toNat_ofNat_of_lt (n := c.toNat) (by omega)
    refine ⟨_, [], rfl, fun rest => ?_⟩
    rw [readChar, leadShape_eq, if_pos (by omega), hb, Char.ofNat_toNat]
    rfl
  · split
    · have hb := toNat_ofNat_of_lt (n := c.toNat / 64 % 32 + 192) (by omega)
      refine ⟨_, tailBytes [c.toNat], rfl, readChar_tailBytes ?_ ?_⟩
      · exact leads_one (by omega) (isTail_ofNat _)
      · simp only [List.foldl_cons, List.foldl_nil, List.length_nil, leadBits, hb]
        omega
    · split
      · have hb := toNat_ofNat_of_lt (n := c.toNat / 4096 % 16 + 224) (by omega)
        have hsecond := toNat_ofNat_of_lt (n := c.toNat / 64 % 64 + 128) (by omega)
        refine ⟨_, tailBytes [c.toNat / 64, c.toNat], rfl, readChar_tailBytes ?_ ?_⟩
        · exact leads_two (by omega) (isTail_ofNat _) (by omega) (by omega)
        · simp only [List.foldl_cons, List.foldl_nil, List.length_cons, List.length_nil, leadBits,
            hb]
          omega
      · have hb := toNat_ofNat_of_lt (n := c.toNat / 262144 % 8 + 240) (by omega)
        have hsecond := toNat_ofNat_of_lt (n := c.toNat / 4096 % 64 + 128) (by omega)
        refine ⟨_, tailBytes [c.toNat / 4096, c.toNat / 64, c.toNat], rfl,
          readChar_tailBytes ?_ ?_⟩
        · exact leads_three (by omega) (isTail_ofNat _) (by omega) (by omega)
        · simp only [List.foldl_cons, List.foldl_nil, List.length_cons, List.length_nil, leadBits,
            hb]
          omega

/-! ## A whole text -/

theorem toList_eq_data (bytes : ByteArray) : bytes.toList = bytes.data.toList := by
  have hloop (i : Nat) (acc : List UInt8) :
      ByteArray.toList.loop bytes i acc = acc.reverse ++ bytes.data.toList.drop i := by
    fun_induction ByteArray.toList.loop bytes i acc with
    | case1 i acc h ih =>
      have hget : bytes.get! i = bytes.data[i] := getElem!_pos bytes.data i h
      rw [ih, hget, List.reverse_cons, List.append_assoc, ← Array.getElem_toList,
        List.singleton_append, List.getElem_cons_drop]
    | case2 i acc h =>
      have hdrop : bytes.data.toList.drop i = [] :=
        List.drop_eq_nil_of_le (Nat.le_of_not_lt h)
      rw [hdrop, List.append_nil]
  rw [ByteArray.toList, hloop]
  rfl

theorem toList_utf8Encode (cs : List Char) :
    cs.utf8Encode.toList = cs.flatMap String.utf8EncodeChar := by
  rw [toList_eq_data, List.utf8Encode, List.data_toByteArray]

/-- **The bytes of a text are read as that text** by the reading that puts up with anything. -/
theorem decode_utf8Encode (cs : List Char) : decode cs.utf8Encode.toList = cs := by
  have hgo (acc : List Char) :
      decode.go (cs.flatMap String.utf8EncodeChar) acc = acc.reverse ++ cs := by
    induction cs generalizing acc with
    | nil => rw [List.flatMap_nil, decode.go, List.append_nil]
    | cons c rest ih =>
      -- reading goes on behind the bytes that the character has taken
      obtain ⟨b, tails, hc, hread⟩ := readChar_utf8EncodeChar c
      rw [List.flatMap_cons, hc, List.cons_append, decode.go, hread]
      dsimp only
      rw [List.drop_left, Option.getD_some, ih, List.reverse_cons, List.append_assoc]
      rfl
  rw [toList_utf8Encode, decode, hgo]
  rfl

/-- **They are accepted** by the reading that refuses what is no UTF-8. -/
theorem decodeStrict_utf8Encode (cs : List Char) : decodeStrict cs.utf8Encode.toList = some cs := by
  have hgo (acc : List Char) :
      decodeStrict.go (cs.flatMap String.utf8EncodeChar) acc = some (acc.reverse ++ cs) := by
    induction cs generalizing acc with
    | nil => rw [List.flatMap_nil, decodeStrict.go, List.append_nil]
    | cons c rest ih =>
      obtain ⟨b, tails, hc, hread⟩ := readChar_utf8EncodeChar c
      rw [List.flatMap_cons, hc, List.cons_append, decodeStrict.go, hread]
      dsimp only
      rw [List.drop_left, ih, List.reverse_cons, List.append_assoc]
      rfl
  rw [toList_utf8Encode, decodeStrict, hgo]
  rfl

theorem decode_toUTF8 (s : String) : decode s.toUTF8.toList = s.toList := by
  rw [String.toUTF8_eq_toByteArray, ← String.utf8Encode_toList, decode_utf8Encode]

/-! ## Line ends -/

theorem unifyLineEnds_go {cs acc : List Char} (h : '\r' ∉ cs) :
    unifyLineEnds.go cs acc = acc.reverse ++ cs := by
  fun_induction unifyLineEnds.go cs acc with
  | case1 acc => simp
  | case2 => simp at h
  | case3 acc c rest _ ih =>
    rw [List.mem_cons, not_or] at h
    rw [ih h.2, if_neg (Ne.symm h.1)]
    simp

/-- A text without carriage returns has its line ends already. -/
theorem unifyLineEnds_eq_self {cs : List Char} (h : '\r' ∉ cs) : unifyLineEnds cs = cs :=
  unifyLineEnds_go h

end Advisor.Text

namespace Advisor.Scan

/-- A text without carriage returns is read back from a file as it was written. -/
theorem contentOf_toUTF8 {s : String} (h : '\r' ∉ s.toList) : contentOf s.toUTF8 = s := by
  rw [contentOf, Text.decode_toUTF8, Text.unifyLineEnds_eq_self h, String.ofList_toList]

end Advisor.Scan
