import Advisor.Json.Printer
import Advisor.Proofs.Json.Reader

/-!
# What is printed is read again

`Readable n v` names the values that survive being printed: no number is kept as it was written,
integers have no more digits than the reader takes, no object names a member twice, and brackets
stand at most `n` deep. Such a value is printed in plain ASCII (`Readable.isPrinted`), and
the reader finds it again in the text, members in their order (`read_render`).
-/

namespace Advisor.Json

variable {cs rest : List Char}

/-! ## Strings -/

theorem hexValue?_hexDigit : ∀ n < 16, Text.hexValue? (Text.hexDigit n) = some n := by decide

/-- Four digits give the unit back. -/
theorem hex4?_hexDigit {n : Nat} (hn : n < 0x10000) :
    hex4? (Text.hexDigit (n / 4096 % 16)) (Text.hexDigit (n / 256 % 16)) (Text.hexDigit (n / 16 % 16))
      (Text.hexDigit (n % 16)) = some n := by
  have hdigit (k : Nat) : Text.hexValue? (Text.hexDigit (k % 16)) = some (k % 16) :=
    hexValue?_hexDigit _ (Nat.mod_lt k (by decide))
  have hsum : n / 4096 % 16 * 4096 + n / 256 % 16 * 256 + n / 16 % 16 * 16 + n % 16 = n := by omega
  simp only [hex4?, hdigit, bind, Option.bind, pure, hsum]

/-- **A unit that is a character of its own.** -/
theorem readString_escapeUnit {c : Char} (hc : c.toNat < 0x10000) (acc rest : List Char) :
    readString acc (escapeUnit c.toNat ++ rest) = readString (c :: acc) rest := by
  have hvalid : c.toNat < 0xd800 ∨ 0xdfff < c.toNat ∧ c.toNat < 0x110000 := c.valid
  have hhigh : isHighHalf c.toNat = false := by
    simp only [isHighHalf, Bool.and_eq_false_iff, decide_eq_false_iff_not]
    omega
  have hlow : isLowHalf c.toNat = false := by
    simp only [isLowHalf, Bool.and_eq_false_iff, decide_eq_false_iff_not]
    omega
  simp only [escapeUnit, List.cons_append, List.nil_append]
  rw [readString, hex4?_hexDigit hc]
  simp only [hhigh, Bool.false_eq_true, if_false, ofUnit, hlow, Bool.or_self, Char.ofNat_toNat]

/-- **A pair of units.** -/
theorem readString_escapePair {c : Char} (hc : 0x10000 ≤ c.toNat) (acc rest : List Char) :
    readString acc (escapeUnit (0xd800 + (c.toNat - 0x10000) / 0x400) ++
        (escapeUnit (0xdc00 + (c.toNat - 0x10000) % 0x400) ++ rest)) =
      readString (c :: acc) rest := by
  have hvalid : c.toNat < 0xd800 ∨ 0xdfff < c.toNat ∧ c.toNat < 0x110000 := c.valid
  obtain ⟨m, hm⟩ : ∃ m, m = c.toNat - 0x10000 := ⟨_, rfl⟩
  rw [← hm]
  have hhigh : isHighHalf (0xd800 + m / 0x400) = true := by
    simp only [isHighHalf, Bool.and_eq_true, decide_eq_true_eq]
    omega
  have hlow : isLowHalf (0xdc00 + m % 0x400) = true := by
    simp only [isLowHalf, Bool.and_eq_true, decide_eq_true_eq]
    omega
  have hpair : ofPair (0xd800 + m / 0x400) (0xdc00 + m % 0x400) = c := by
    have hsum : 0x10000 + (0xd800 + m / 0x400 - 0xd800) * 0x400 + (0xdc00 + m % 0x400 - 0xdc00) =
        c.toNat := by omega
    rw [ofPair, hsum, Char.ofNat_toNat]
  simp only [escapeUnit, List.cons_append, List.nil_append]
  rw [readString, hex4?_hexDigit (by omega)]
  simp only [hhigh, if_true, lowHalf?, hex4?_hexDigit (show 0xdc00 + m % 0x400 < 0x10000 by omega),
    Option.filter_some, hlow, hpair, List.drop_succ_cons, List.drop_zero]

theorem readString_escaped {c e : Char} (h : escaped? c = some e) (acc rest : List Char) :
    readString acc ('\\' :: c :: rest) = readString (e :: acc) rest := by
  rw [readString]
  · rw [h]
  · rintro _ _ _ _ _ rfl
    cases h

/-- **Every character comes back**, however it is written. -/
theorem readString_escapeChar (c : Char) (acc rest : List Char) :
    readString acc (escapeChar c ++ rest) = readString (c :: acc) rest := by
  unfold escapeChar
  split
  · exact readString_escaped rfl acc rest
  · exact readString_escaped rfl acc rest
  · exact readString_escaped rfl acc rest
  · exact readString_escaped rfl acc rest
  · exact readString_escaped rfl acc rest
  · exact readString_escaped rfl acc rest
  · exact readString_escaped rfl acc rest
  · rename_i hquote hslash _ _ _ _ _
    dsimp only
    split
    · rename_i hplain
      rw [Bool.and_eq_true, decide_eq_true_eq] at hplain
      have hc : isPlain c = true := by
        simp only [isPlain, Bool.and_eq_true, bne_iff_ne, decide_eq_true_eq]
        exact ⟨⟨hquote, hslash⟩, hplain.1⟩
      exact readString_of_isPlain hc acc rest
    · split
      · rename_i hunit
        exact readString_escapeUnit hunit acc rest
      · rename_i hpair
        rw [List.append_assoc]
        exact readString_escapePair (Nat.le_of_not_lt hpair) acc rest

/-- **A string in quotes comes back**, whatever it holds. -/
theorem readString_escaped_all (s : String) (rest : List Char) :
    readString [] (s.toList.flatMap escapeChar ++ '"' :: rest) = .ok (s, rest) := by
  have hread (ds acc : List Char) :
      readString acc (ds.flatMap escapeChar ++ '"' :: rest) =
        .ok (String.ofList (acc.reverse ++ ds), rest) := by
    induction ds generalizing acc with
    | nil => rw [List.flatMap_nil, List.nil_append, readString, List.append_nil]
    | cons d ds ih =>
      rw [List.flatMap_cons, List.append_assoc, readString_escapeChar, ih, List.reverse_cons,
        List.append_assoc]
      rfl
  rw [hread, List.reverse_nil, List.nil_append, String.ofList_toList]

/-! ## Numbers -/

/-- The digits of an integer, its sign apart. -/
def digitsOf (i : Int) : List Char := Nat.toDigits 10 i.natAbs

theorem toList_repr (i : Int) : i.repr.toList = (if i < 0 then ['-'] else []) ++ digitsOf i := by
  rw [Int.repr_eq_if, digitsOf]
  split
  · rename_i h
    rw [if_neg (by omega), Nat.repr_eq_ofList_toDigits, String.toList_ofList,
      show i.toNat = i.natAbs by omega]
    rfl
  · rename_i h
    rw [if_pos (by omega), String.toList_append, Nat.repr_eq_ofList_toDigits,
      show (-i).toNat = i.natAbs by omega]
    simp

theorem isAsciiDigit_of_mem_digitsOf {i : Int} {c : Char} (h : c ∈ digitsOf i) :
    Text.isAsciiDigit c = true := by
  have hdigit := Nat.isDigit_of_mem_toDigits (by decide) (by decide) h
  rw [Char.isDigit, Bool.and_eq_true, decide_eq_true_eq, decide_eq_true_eq] at hdigit
  rw [Text.isAsciiDigit, Bool.and_eq_true, decide_eq_true_eq, decide_eq_true_eq]
  exact hdigit

theorem ofDigits_digitsOf (i : Int) : Text.ofDigits (digitsOf i) = i.natAbs := by
  rw [Text.ofDigits, Text.inBase, digitsOf]
  conv => rhs; rw [← Nat.ofDigitChars_ten_toDigits (n := i.natAbs), Nat.ofDigitChars_eq_foldl]
  congr 1
  funext n c
  rw [Nat.mul_comm]

/-- A zero in front is the number zero. -/
theorem digitsOf_eq_of_head {i : Int} {ds : List Char} (h : digitsOf i = '0' :: ds) : ds = [] := by
  rw [digitsOf] at h
  generalize i.natAbs = n at h
  induction n using Nat.strong_induction_on generalizing ds with
  | _ n ih =>
    rw [Nat.toDigits_eq_if (by decide)] at h
    split at h
    · exact (List.cons.inj h).2.symm
    · rename_i hn
      cases hfront : Nat.toDigits 10 (n / 10) with
      | nil => exact absurd hfront Nat.toDigits_ne_nil
      | cons d front =>
        rw [hfront, List.cons_append] at h
        obtain ⟨rfl, -⟩ := List.cons.inj h
        -- what stands in front of the last digit is a smaller number, and not zero
        have hnil := ih (n / 10) (by omega) hfront
        have hvalue : Nat.ofDigitChars 10 ['0'] 0 = n / 10 := by
          rw [← hnil, ← hfront, Nat.ofDigitChars_ten_toDigits]
        have hzero : Nat.ofDigitChars 10 ['0'] 0 = 0 := rfl
        omega

/-- What may follow a value: nothing, a comma or a new line. -/
def Ends (rest : List Char) : Prop := ∀ c back, rest = c :: back → c = ',' ∨ c = '\n'

theorem span_digitsOf (i : Int) (hrest : Ends rest) :
    (digitsOf i ++ rest).span Text.isAsciiDigit = (digitsOf i, rest) := by
  have hnone : rest.span Text.isAsciiDigit = ([], rest) := by
    cases rest with
    | nil => rfl
    | cons c back =>
      have hc : Text.isAsciiDigit c = false := by
        rcases hrest c back rfl with rfl | rfl <;> rfl
      rw [List.span_eq_takeWhile_dropWhile, List.takeWhile_cons, List.dropWhile_cons, hc]
      rfl
  rw [List.span_eq_takeWhile_dropWhile, Prod.mk.injEq] at hnone ⊢
  have hall : ∀ c ∈ digitsOf i, Text.isAsciiDigit c = true := fun _ => isAsciiDigit_of_mem_digitsOf
  rw [List.takeWhile_append_of_pos hall, List.dropWhile_append_of_pos hall, hnone.1, hnone.2,
    List.append_nil]
  exact ⟨rfl, rfl⟩

theorem fraction_of_ends (hrest : Ends rest) : fraction rest = ([], rest) := by
  unfold fraction
  split
  · rename_i back
    rcases hrest '.' back rfl with h | h <;> cases h
  · rfl

theorem exponent_of_ends (hrest : Ends rest) : exponent rest = ([], rest) := by
  unfold exponent
  cases rest with
  | nil => rfl
  | cons c back => rcases hrest c back rfl with rfl | rfl <;> rfl

/-- **An integer comes back** if it has no more digits than are read. -/
theorem readNumber_digitsOf {i : Int} (hi : (digitsOf i).length ≤ Text.maxDigits) (negative : Bool)
    (hrest : Ends rest) :
    readNumber negative (digitsOf i ++ rest) =
      .ok (.int (if negative then -i.natAbs else i.natAbs), rest) := by
  have hspan := span_digitsOf i hrest
  have hofDigits := ofDigits_digitsOf i
  cases hds : digitsOf i with
  | nil => exact absurd hds Nat.toDigits_ne_nil
  | cons d ds =>
    rw [hds] at hi hspan hofDigits
    rw [List.cons_append] at hspan ⊢
    by_cases hd : d = '0'
    · subst hd
      obtain rfl := digitsOf_eq_of_head hds
      simp only [readNumber, List.nil_append, fraction_of_ends hrest, exponent_of_ends hrest, hi,
        hofDigits, List.isEmpty_cons, List.isEmpty_nil, Bool.and_self, Bool.false_eq_true, if_true,
        if_false]
    · simp only [readNumber, hd, List.cons.injEq, false_and, imp_false, not_false_eq_true,
        implies_true, hspan, fraction_of_ends hrest, exponent_of_ends hrest, hi, hofDigits,
        List.isEmpty_cons, List.isEmpty_nil, Bool.and_self, Bool.false_eq_true, if_true, if_false]

/-! ## What stands between values -/

/-- How a value begins: neither with a blank nor with a bracket that closes. -/
def Begins (text : List Char) : Prop :=
  ∃ c back, text = c :: back ∧ isSpace c = false ∧ ∀ b : Bracket, c ≠ b.closing

theorem begins_cons {c : Char} (back : List Char) (hc : isSpace c = false)
    (hclosing : ∀ b : Bracket, c ≠ b.closing) : Begins (c :: back) :=
  ⟨c, back, rfl, hc, hclosing⟩

theorem Begins.append (h : Begins cs) (rest : List Char) : Begins (cs ++ rest) := by
  obtain ⟨c, back, rfl, hc, hclosing⟩ := h
  exact begins_cons (back ++ rest) hc hclosing

theorem Begins.skipSpace (h : Begins cs) : skipSpace cs = cs := by
  obtain ⟨c, back, rfl, hc, -⟩ := h
  rw [Json.skipSpace, List.dropWhile_cons_of_neg (by simp [hc])]

theorem Begins.after? (h : Begins cs) (b : Bracket) : after? b.closing cs = none := by
  obtain ⟨c, back, rfl, -, hclosing⟩ := h
  rw [Json.after?, if_neg (hclosing b)]

/-- New lines are skipped with all that they indent by. -/
theorem skipSpace_newLine (level : Nat) (cs : List Char) :
    skipSpace (newLine level ++ cs) = skipSpace cs := by
  have hblank : ∀ c ∈ newLine level, isSpace c = true := by
    intro c hc
    rcases List.mem_cons.mp hc with rfl | hc
    · rfl
    · rw [List.eq_of_mem_replicate hc]
      rfl
  exact List.dropWhile_append_of_pos hblank

theorem ends_newLine (level : Nat) (cs : List Char) : Ends (newLine level ++ cs) := by
  intro c back h
  cases h
  exact .inr rfl

theorem ends_comma (cs : List Char) : Ends (',' :: cs) := by
  intro c back h
  cases h
  exact .inl rfl

/-! ## Lists and objects alike -/

/-- An entry as it is written. -/
def entryText (b : Bracket) (level : Nat) (e : String × Json) : List Char :=
  match b with
  | .square => renderAt level e.2
  | .curly => quote e.1 ++ ':' :: ' ' :: renderAt level e.2

/-- Entries after the first as they are written. -/
def laterText (b : Bracket) (level : Nat) (es : List (String × Json)) : List Char :=
  es.flatMap fun e => ',' :: newLine level ++ entryText b level e

/-- Entries between brackets as they are written. -/
def bracketText (b : Bracket) (level : Nat) : List (String × Json) → List Char
  | [] => [b.opening, b.closing]
  | e :: es =>
    b.opening :: newLine (level + 1) ++ (entryText b (level + 1) e ++
      (laterText b (level + 1) es ++ (newLine level ++ [b.closing])))

theorem laterText_cons (b : Bracket) (level : Nat) (e : String × Json) (es : List (String × Json)) :
    laterText b level (e :: es) =
      ',' :: (newLine level ++ (entryText b level e ++ laterText b level es)) := by
  rw [laterText, List.flatMap_cons, List.cons_append, List.cons_append, List.append_assoc]
  rfl

theorem renderAt_list (level : Nat) (items : List Json) :
    renderAt level (.list items) = bracketText .square level (items.map ("", ·)) := by
  have hlater (vs : List Json) :
      renderItems (level + 1) vs = laterText .square (level + 1) (vs.map ("", ·)) := by
    induction vs with
    | nil => rw [renderItems]; rfl
    | cons v vs ih => rw [renderItems, ih, List.map_cons, laterText_cons]; rfl
  cases items with
  | nil => rw [renderAt]; rfl
  | cons v vs => rw [renderAt, hlater]; rfl

theorem renderAt_object (level : Nat) (members : List (String × Json)) :
    renderAt level (.object members) = bracketText .curly level members := by
  have hlater (ms : List (String × Json)) :
      renderMembers (level + 1) ms = laterText .curly (level + 1) ms := by
    induction ms with
    | nil => rw [renderMembers]; rfl
    | cons m ms ih =>
      obtain ⟨name, v⟩ := m
      rw [renderMembers, ih, laterText_cons, entryText]
      simp only [List.append_assoc, List.cons_append]
  cases members with
  | nil => rw [renderAt]; rfl
  | cons m ms =>
    obtain ⟨name, v⟩ := m
    rw [renderAt, hlater, bracketText, entryText]
    simp only [List.append_assoc, List.cons_append]
    rfl

/-- **A value that comes back** when it is written at a level and read with some levels left. -/
structure Returns (levels level : Nat) (v : Json) : Prop where
  begins : Begins (renderAt level v)
  read : ∀ fuel rest, Ends rest → 2 * (renderAt level v).length + 1 ≤ fuel →
    readValue fuel levels (renderAt level v ++ rest) = .ok (v, rest)

section Entries

variable {b : Bracket} {levels level : Nat} {e : String × Json}

theorem begins_entryText (h : Begins (renderAt level e.2)) : Begins (entryText b level e) := by
  cases b with
  | square => exact h
  | curly => exact begins_cons _ rfl fun b => by cases b <;> decide

theorem length_renderAt_le_entryText (b : Bracket) (level : Nat) (e : String × Json) :
    (renderAt level e.2).length ≤ (entryText b level e).length := by
  cases b with
  | square => exact Nat.le_refl _
  | curly =>
    rw [entryText, List.length_append, List.length_cons, List.length_cons]
    omega

theorem front?_entryText (h : Begins (renderAt level e.2)) (hname : b = .square → e.1 = "")
    (rest : List Char) :
    front? b (entryText b level e ++ rest) = some (e.1, renderAt level e.2 ++ rest) := by
  cases b with
  | square => rw [entryText, front?, hname rfl]
  | curly =>
    rw [entryText, quote]
    simp only [List.cons_append, List.append_assoc, List.nil_append]
    rw [front?, readString_escaped_all]
    have hskip : skipSpace (' ' :: (renderAt level e.2 ++ rest)) = renderAt level e.2 ++ rest :=
      (h.append rest).skipSpace
    have hcolon : skipSpace (':' :: ' ' :: (renderAt level e.2 ++ rest)) =
        ':' :: ' ' :: (renderAt level e.2 ++ rest) := rfl
    dsimp only
    rw [hcolon, after?_self, Option.map_some, hskip]

/-- **Entries come back if their values do.** By induction on the entries after the first. -/
theorem readEntries_laterText {es : List (String × Json)}
    (hes : ∀ x ∈ e :: es, Returns levels level x.2 ∧ (b = .square → x.1 = ""))
    (outer fuel : Nat) (acc : List (String × Json)) (rest : List Char)
    (hfuel : 2 * ((entryText b level e).length + (laterText b level es).length) + 2 ≤ fuel) :
    readEntries b fuel levels acc (entryText b level e ++
        (laterText b level es ++ (newLine outer ++ b.closing :: rest))) =
      .ok (b.value (acc.reverse ++ e :: es), rest) := by
  -- every entry takes one step of its own; those of its value come out of its length
  induction es generalizing e acc fuel with
  | nil =>
    obtain ⟨he, hname⟩ := hes e List.mem_cons_self
    obtain ⟨fuel, rfl⟩ : ∃ n, fuel = n + 1 := ⟨fuel - 1, by omega⟩
    have hlength := length_renderAt_le_entryText b level e
    have hvalue := he.read fuel (newLine outer ++ b.closing :: rest) (ends_newLine outer _)
      (by omega)
    have hclosing : skipSpace (newLine outer ++ b.closing :: rest) = b.closing :: rest := by
      rw [skipSpace_newLine]
      cases b <;> rfl
    have hfront := front?_entryText (b := b) he.begins hname (newLine outer ++ b.closing :: rest)
    rw [laterText, List.flatMap_nil, List.nil_append,
      readEntries_of_closing hfront hvalue hclosing, List.reverse_cons]
  | cons e' es ih =>
    obtain ⟨he, hname⟩ := hes e List.mem_cons_self
    have hes' := fun x hx => hes x (List.mem_cons_of_mem e hx)
    obtain ⟨fuel, rfl⟩ : ∃ n, fuel = n + 1 := ⟨fuel - 1, by omega⟩
    have hlength := length_renderAt_le_entryText b level e
    rw [laterText_cons, List.length_cons, List.length_append, List.length_append] at hfuel
    rw [laterText_cons, List.cons_append, List.append_assoc, List.append_assoc]
    have hbegins := (begins_entryText (b := b) (hes' e' List.mem_cons_self).1.begins).append
      (laterText b level es ++ (newLine outer ++ b.closing :: rest))
    rw [readEntries_of_comma (front?_entryText he.begins hname _)
      (he.read fuel _ (ends_comma _) (by omega)) rfl, skipSpace_newLine, hbegins.skipSpace,
      ih hes' fuel _ (by omega), List.reverse_cons, List.append_assoc]
    rfl

/-- **What stands between brackets comes back if its values do**, one level further in. -/
theorem readValue_bracketText {es : List (String × Json)}
    (hes : ∀ x ∈ es, Returns levels (level + 1) x.2 ∧ (b = .square → x.1 = ""))
    (fuel : Nat) (rest : List Char) (hfuel : 2 * (bracketText b level es).length + 1 ≤ fuel) :
    readValue fuel (levels + 1) (bracketText b level es ++ rest) = .ok (b.value es, rest) := by
  obtain ⟨fuel, rfl⟩ : ∃ n, fuel = n + 1 := ⟨fuel - 1, by omega⟩
  cases es with
  | nil =>
    have hclosing : skipSpace (b.closing :: rest) = b.closing :: rest := by cases b <;> rfl
    rw [bracketText, List.cons_append, List.cons_append, List.nil_append, readValue_opening,
      hclosing]
    dsimp only
    rw [after?_self]
  | cons e es =>
    have hbegins := (begins_entryText (b := b) (hes e List.mem_cons_self).1.begins).append
      (laterText b (level + 1) es ++ (newLine level ++ b.closing :: rest))
    rw [bracketText] at hfuel ⊢
    simp only [List.length_cons, List.length_append] at hfuel
    simp only [List.cons_append, List.append_assoc, List.nil_append]
    rw [readValue_opening, skipSpace_newLine, hbegins.skipSpace]
    dsimp only
    rw [hbegins.after?]
    exact readEntries_laterText hes level fuel [] rest (by omega)

end Entries

/-! ## Values -/

/-- **Values that are read as they are printed**, with brackets at most `n` deep. A number that is
kept as it was written is not among them, since it may be written in any way. -/
inductive Readable : Nat → Json → Prop
  | null (n : Nat) : Readable n .null
  | bool (n : Nat) (b : Bool) : Readable n (.bool b)
  | int (n : Nat) {i : Int} : (digitsOf i).length ≤ Text.maxDigits → Readable n (.int i)
  | str (n : Nat) (s : String) : Readable n (.str s)
  | list {n : Nat} {items : List Json} :
      (∀ v ∈ items, Readable n v) → Readable (n + 1) (.list items)
  | object {n : Nat} {members : List (String × Json)} : (members.map Prod.fst).Nodup →
      (∀ m ∈ members, Readable n m.2) → Readable (n + 1) (.object members)

/-- An object whose members are looked at one by one. -/
theorem Readable.ofMembers {n : Nat} {members : List (String × Json)}
    (hnames : (members.map Prod.fst).Nodup) (h : members.Forall fun m => Readable n m.2) :
    Readable (n + 1) (.object members) :=
  .object hnames (List.forall_iff_forall_mem.mp h)

/-- A scalar comes back if the reader knows it from its first character. -/
theorem returns_scalar {v : Json} {levels level : Nat} {c : Char} {back : List Char}
    (htext : renderAt level v = c :: back) (hspace : isSpace c = false)
    (hbracket : ∀ b : Bracket, c ≠ b.opening ∧ c ≠ b.closing)
    (hread : ∀ rest, Ends rest → readScalar (renderAt level v ++ rest) = .ok (v, rest)) :
    Returns levels level v where
  begins := by
    rw [htext]
    exact begins_cons back hspace fun b => (hbracket b).2
  read fuel rest hrest hfuel := by
    obtain ⟨fuel, rfl⟩ : ∃ n, fuel = n + 1 := ⟨fuel - 1, by omega⟩
    have hopen (b : Bracket) : (renderAt level v ++ rest).head? ≠ some b.opening := by
      rw [htext]
      exact fun h => (hbracket b).1 (Option.some.inj h)
    rw [readValue_scalar hopen]
    exact hread rest hrest

theorem word?_eq_none {word : String} {c d : Char} {w : List Char} (hword : word.toList = c :: w)
    (h : c ≠ d) (cs : List Char) : Text.word? word (d :: cs) = none := by
  simp [Text.word?, hword, List.isPrefixOf?, h]

theorem ne_of_isAsciiDigit {c d : Char} (hc : Text.isAsciiDigit c = true)
    (hd : Text.isAsciiDigit d = false) : c ≠ d := by
  rintro rfl
  rw [hc] at hd
  cases hd

theorem exists_digitsOf_eq (i : Int) :
    ∃ d ds, digitsOf i = d :: ds ∧ Text.isAsciiDigit d = true := by
  cases h : digitsOf i with
  | nil => exact absurd h Nat.toDigits_ne_nil
  | cons d ds =>
    exact ⟨d, ds, rfl, isAsciiDigit_of_mem_digitsOf (i := i) (by rw [h]; exact List.mem_cons_self)⟩

theorem readScalar_int {i : Int} (hi : (digitsOf i).length ≤ Text.maxDigits) (hrest : Ends rest) :
    readScalar (i.repr.toList ++ rest) = .ok (.int i, rest) := by
  obtain ⟨d, ds, hds, hd⟩ := exists_digitsOf_eq i
  have hne {c : Char} (hc : Text.isAsciiDigit c = false) : c ≠ d := (ne_of_isAsciiDigit hd hc).symm
  rw [toList_repr, List.append_assoc]
  split
  · rename_i hneg
    have hinf : Text.word? "Infinity" (digitsOf i ++ rest) = none := by
      rw [hds]
      exact word?_eq_none rfl (hne rfl) _
    rw [List.cons_append, List.nil_append, readScalar, hinf]
    dsimp only
    rw [readNumber_digitsOf hi true hrest, if_pos rfl, show -(i.natAbs : Int) = i by omega]
  · rename_i hpos
    rw [List.nil_append]
    have hnumber := readNumber_digitsOf hi false hrest
    rw [if_neg (by decide), show (i.natAbs : Int) = i by omega, hds, List.cons_append] at hnumber
    rw [hds, List.cons_append, readScalar]
    · rw [word?_eq_none rfl (hne rfl), word?_eq_none rfl (hne rfl), word?_eq_none rfl (hne rfl),
        word?_eq_none rfl (hne rfl), word?_eq_none rfl (hne rfl)]
      exact hnumber
    -- neither a quote nor a sign
    · exact fun _ h => hne rfl (List.cons.inj h).1.symm
    · exact fun _ h => hne rfl (List.cons.inj h).1.symm

theorem returns_int {i : Int} (hi : (digitsOf i).length ≤ Text.maxDigits) (levels level : Nat) :
    Returns levels level (.int i) := by
  obtain ⟨d, ds, hds, hd⟩ := exists_digitsOf_eq i
  obtain ⟨c, back, htext, hc⟩ : ∃ c back, renderAt level (.int i) = c :: back ∧
      (c = '-' ∨ Text.isAsciiDigit c = true) := by
    rw [renderAt, toList_repr, hds]
    split
    · exact ⟨'-', d :: ds, rfl, .inl rfl⟩
    · exact ⟨d, ds, rfl, .inr hd⟩
  have hne {x : Char} (hx : Text.isAsciiDigit x = false) (hminus : x ≠ '-') : c ≠ x := by
    rcases hc with rfl | hc
    · exact hminus.symm
    · exact ne_of_isAsciiDigit hc hx
  refine returns_scalar htext ?_ ?_ ?_
  · simp only [isSpace, Text.isInlineBlank, Bool.or_eq_false_iff, beq_eq_false_iff_ne]
    exact ⟨⟨⟨hne rfl (by decide), hne rfl (by decide)⟩, hne rfl (by decide)⟩,
      hne rfl (by decide)⟩
  · intro b
    cases b <;> exact ⟨hne rfl (by decide), hne rfl (by decide)⟩
  · intro rest hrest
    rw [renderAt]
    exact readScalar_int hi hrest

theorem returns_str (s : String) (levels level : Nat) : Returns levels level (.str s) := by
  have htext (rest : List Char) : renderAt level (.str s) ++ rest =
      '"' :: (s.toList.flatMap escapeChar ++ '"' :: rest) := by
    rw [renderAt, quote, List.cons_append, List.cons_append, List.append_assoc]
    rfl
  refine returns_scalar rfl rfl (fun b => by cases b <;> decide) fun rest _ => ?_
  rw [htext, readScalar, readString_escaped_all]
  rfl

theorem returns_null (levels level : Nat) : Returns levels level .null :=
  returns_scalar rfl rfl (fun b => by cases b <;> decide) fun _ _ => rfl

theorem returns_bool (b : Bool) (levels level : Nat) : Returns levels level (.bool b) := by
  cases b with
  | true => exact returns_scalar rfl rfl (fun b => by cases b <;> decide) fun _ _ => rfl
  | false => exact returns_scalar rfl rfl (fun b => by cases b <;> decide) fun _ _ => rfl

theorem returns_bracket {b : Bracket} {levels level : Nat} {es : List (String × Json)} {v : Json}
    (htext : renderAt level v = bracketText b level es) (hvalue : b.value es = v)
    (hes : ∀ x ∈ es, Returns levels (level + 1) x.2 ∧ (b = .square → x.1 = "")) :
    Returns (levels + 1) level v where
  begins := by
    have hopening : isSpace b.opening = false ∧ ∀ b' : Bracket, b.opening ≠ b'.closing := by
      cases b <;> exact ⟨rfl, fun b' => by cases b' <;> decide⟩
    rw [htext]
    cases es <;> exact begins_cons _ hopening.1 hopening.2
  read fuel rest _ hfuel := by
    rw [htext] at hfuel ⊢
    rw [readValue_bracketText hes fuel rest hfuel, hvalue]

/-- Members of different names are kept as they come. -/
theorem foldl_put_of_nodup {members acc : List (String × Json)}
    (h : ((acc ++ members).map Prod.fst).Nodup) :
    members.foldl (fun ms m => put ms m.1 m.2) acc = acc ++ members := by
  have hput {ms : List (String × Json)} {name : String} {v : Json}
      (hname : name ∉ ms.map Prod.fst) : put ms name v = ms ++ [(name, v)] := by
    induction ms with
    | nil => rfl
    | cons m ms ih =>
      rw [List.map_cons, List.mem_cons, not_or] at hname
      rw [put, if_neg (Ne.symm hname.1), ih hname.2]
      rfl
  induction members generalizing acc with
  | nil => rw [List.foldl_nil, List.append_nil]
  | cons m rest ih =>
    have hnew : m.1 ∉ acc.map Prod.fst := by
      intro hmem
      rw [List.map_append, List.map_cons] at h
      exact (List.nodup_append.mp h).2.2 m.1 hmem m.1 List.mem_cons_self rfl
    rw [List.foldl_cons, hput hnew, ih (by simpa using h), List.append_assoc]
    rfl

/-- **Values come back**, wherever they stand and as long as enough levels are left. -/
theorem Readable.returns {n : Nat} {v : Json} (h : Readable n v) (levels level : Nat)
    (hn : n ≤ levels) : Returns levels level v := by
  induction h generalizing levels level with
  | null => exact returns_null levels level
  | bool _ b => exact returns_bool b levels level
  | int _ hi => exact returns_int hi levels level
  | str _ s => exact returns_str s levels level
  | @list n items _ ih =>
    obtain ⟨levels, rfl⟩ : ∃ m, levels = m + 1 := ⟨levels - 1, by omega⟩
    have hvalue : Bracket.square.value (items.map ("", ·)) = .list items := by
      simp [Bracket.value]
    refine returns_bracket (renderAt_list level items) hvalue ?_
    intro x hx
    obtain ⟨v, hv, rfl⟩ := List.mem_map.mp hx
    exact ⟨ih v hv levels (level + 1) (by omega), fun _ => rfl⟩
  | @object n members hnames _ ih =>
    obtain ⟨levels, rfl⟩ : ∃ m, levels = m + 1 := ⟨levels - 1, by omega⟩
    have hvalue : Bracket.curly.value members = .object members := by
      rw [Bracket.value, foldl_put_of_nodup (by simpa using hnames), List.nil_append]
    refine returns_bracket (renderAt_object level members) hvalue ?_
    intro m hm
    exact ⟨ih m hm levels (level + 1) (by omega), fun h => by cases h⟩

/-- **What is printed is read again**, also with line feeds behind it. -/
theorem read_render {n depth : Nat} {v : Json} (h : Readable n v) (hn : n ≤ depth)
    {tail : List Char} (htail : ∀ c ∈ tail, c = '\n') :
    read depth (v.render ++ String.ofList tail) = .ok v := by
  have hreturns := h.returns depth 0 hn
  have hends : Ends tail := by
    rintro c back rfl
    exact .inr (htail c List.mem_cons_self)
  have hblank : skipSpace tail = [] := by
    rw [skipSpace, List.dropWhile_eq_nil_iff]
    intro c hc
    rw [htail c hc]
    rfl
  have hread := hreturns.read (2 * (renderAt 0 v ++ tail).length + 1) tail hends
    (by rw [List.length_append]; omega)
  simp only [read, render, String.toList_append, String.toList_ofList,
    (hreturns.begins.append tail).skipSpace, hread, hblank]
  rfl

/-! ## The characters of a text -/

/-- Characters that stand in printed values: line feeds, and what ASCII shows. -/
def IsPrinted (c : Char) : Prop := c = '\n' ∨ (0x20 ≤ c.toNat ∧ c.toNat ≤ 0x7e)

instance (c : Char) : Decidable (IsPrinted c) := inferInstanceAs (Decidable (_ ∨ _ ∧ _))

theorem isPrinted_of_all (h : cs.all (fun c => decide (IsPrinted c)) = true) :
    ∀ c ∈ cs, IsPrinted c := by
  simpa using h

theorem isPrinted_hexDigit : ∀ n < 16, IsPrinted (Text.hexDigit n) := by decide

theorem isPrinted_of_mem_escapeUnit {n : Nat} : ∀ c ∈ escapeUnit n, IsPrinted c := by
  have hdigit (k : Nat) : IsPrinted (Text.hexDigit (k % 16)) :=
    isPrinted_hexDigit _ (Nat.mod_lt k (by decide))
  simp only [escapeUnit, List.forall_mem_cons, hdigit, true_and]
  exact ⟨by decide, by decide, by simp⟩

theorem isPrinted_of_mem_escapeChar {c : Char} : ∀ d ∈ escapeChar c, IsPrinted d := by
  unfold escapeChar
  split
  · exact isPrinted_of_all rfl
  · exact isPrinted_of_all rfl
  · exact isPrinted_of_all rfl
  · exact isPrinted_of_all rfl
  · exact isPrinted_of_all rfl
  · exact isPrinted_of_all rfl
  · exact isPrinted_of_all rfl
  · dsimp only
    split
    · rename_i hplain
      rw [Bool.and_eq_true, decide_eq_true_eq, decide_eq_true_eq] at hplain
      intro d hd
      rw [List.mem_singleton.mp hd]
      exact .inr hplain
    · split
      · exact isPrinted_of_mem_escapeUnit
      · intro d hd
        rcases List.mem_append.mp hd with hd | hd
        · exact isPrinted_of_mem_escapeUnit d hd
        · exact isPrinted_of_mem_escapeUnit d hd

theorem isPrinted_of_mem_quote {s : String} : ∀ c ∈ quote s, IsPrinted c := by
  intro c hc
  rw [quote, List.mem_append, List.mem_cons, List.mem_flatMap, List.mem_singleton] at hc
  rcases hc with (rfl | ⟨d, -, hc⟩) | rfl
  · decide
  · exact isPrinted_of_mem_escapeChar c hc
  · decide

theorem isPrinted_of_mem_newLine {level : Nat} : ∀ c ∈ newLine level, IsPrinted c := by
  intro c hc
  rcases List.mem_cons.mp hc with rfl | hc
  · exact .inl rfl
  · rw [List.eq_of_mem_replicate hc]
    decide

theorem isPrinted_of_mem_entryText {b : Bracket} {level : Nat} {e : String × Json}
    (h : ∀ c ∈ renderAt level e.2, IsPrinted c) : ∀ c ∈ entryText b level e, IsPrinted c := by
  cases b with
  | square => exact h
  | curly =>
    intro c hc
    rw [entryText, List.mem_append, List.mem_cons, List.mem_cons] at hc
    rcases hc with hc | rfl | rfl | hc
    · exact isPrinted_of_mem_quote c hc
    · decide
    · decide
    · exact h c hc

theorem isPrinted_of_mem_bracketText {b : Bracket} {level : Nat} {es : List (String × Json)}
    (h : ∀ e ∈ es, ∀ c ∈ renderAt (level + 1) e.2, IsPrinted c) :
    ∀ c ∈ bracketText b level es, IsPrinted c := by
  have hopening : IsPrinted b.opening := by cases b <;> decide
  have hclosing : IsPrinted b.closing := by cases b <;> decide
  cases es with
  | nil => simp [bracketText, hopening, hclosing]
  | cons e es =>
    obtain ⟨he, hes⟩ := List.forall_mem_cons.mp h
    intro c hc
    simp only [bracketText, laterText, List.mem_append, List.mem_cons, List.mem_flatMap,
      List.not_mem_nil, or_false] at hc
    rcases hc with (rfl | hc) | hc | ⟨e', he', (rfl | hc) | hc⟩ | hc | rfl
    · exact hopening
    · exact isPrinted_of_mem_newLine c hc
    · exact isPrinted_of_mem_entryText he c hc
    · decide
    · exact isPrinted_of_mem_newLine c hc
    · exact isPrinted_of_mem_entryText (hes e' he') c hc
    · exact isPrinted_of_mem_newLine c hc
    · exact hclosing

/-- **Values are printed in plain ASCII.** -/
theorem Readable.isPrinted {n : Nat} {v : Json} (h : Readable n v) (level : Nat) :
    ∀ c ∈ renderAt level v, IsPrinted c := by
  induction h generalizing level with
  | null => exact isPrinted_of_all rfl
  | bool _ b => cases b <;> exact isPrinted_of_all rfl
  | @int _ i _ =>
    intro c hc
    rw [renderAt, toList_repr, List.mem_append] at hc
    rcases hc with hc | hc
    · split at hc
      · rw [List.mem_singleton.mp hc]
        decide
      · cases hc
    · have hdigit := isAsciiDigit_of_mem_digitsOf hc
      simp only [Text.isAsciiDigit, Bool.and_eq_true, decide_eq_true_eq, Char.le_def,
        UInt32.le_iff_toNat_le] at hdigit
      have hzero : '0'.val.toNat = 0x30 := rfl
      have hnine : '9'.val.toNat = 0x39 := rfl
      have hc : c.toNat = c.val.toNat := rfl
      exact .inr (by omega)
  | str _ s =>
    rw [renderAt]
    exact isPrinted_of_mem_quote
  | @list n items _ ih =>
    rw [renderAt_list]
    refine isPrinted_of_mem_bracketText fun x hx => ?_
    obtain ⟨v, hv, rfl⟩ := List.mem_map.mp hx
    exact ih v hv (level + 1)
  | object _ _ ih =>
    rw [renderAt_object]
    exact isPrinted_of_mem_bracketText fun m hm => ih m hm (level + 1)

end Advisor.Json
