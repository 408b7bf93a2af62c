import Advisor.Proofs.VersionOrder

/-!
# Where the two orders of versions agree

For versions of nothing but numbers with points between them the semantic order is that of the
numbers (`read_dotted`, `key_lt_iff_of_release`), and the lexical order that of the characters. The
two agree if the numbers have the same widths one by one: then the points stand below each other
(`append_lt_append_iff`), and digits of one width are ordered as their values
(`value_lt_iff`). Zeros at the end of a release make no difference between releases of the same
length (`dropTrailingZeros_lt_iff`).
-/

namespace Advisor.Version

/-! ## Reading plain releases -/

/-- The value of a run of digits. -/
def value (ds : List Char) : Nat := ds.foldl (fun n c => n * 10 + (c.toNat - '0'.toNat)) 0

/-- **A plain release** is read as its numbers, if they are short enough. -/
theorem read_dotted {numerals : List (List Char)} (hne : numerals ≠ [])
    (h : ∀ ds ∈ numerals, IsNumeral ds) (hshort : ∀ ds ∈ numerals, ds.length ≤ Text.maxDigits) :
    read (dotted numerals) = .ok ⟨0, numerals.map value, none, none, none, []⟩ := by
  obtain ⟨first, more, rfl⟩ := List.exists_cons_of_ne_nil hne
  obtain ⟨hfirst, hmore⟩ := List.forall_mem_cons.mp h
  have hrelease : ∀ l : List (List Char), (∀ ds ∈ l, ds.length ≤ Text.maxDigits) →
      l.mapM number = .ok (l.map value) := by
    intro l hl
    induction l with
    | nil => rfl
    | cons ds rest ih =>
      obtain ⟨hds, hrest⟩ := List.forall_mem_cons.mp hl
      have hnumber : number ds = .ok (value ds) := if_pos hds
      rw [List.mapM_cons, hnumber, ih hrest]
      rfl
  rw [read_of_pieces (pieces?_dotted hfirst hmore)]
  dsimp only
  rw [hrelease _ hshort]
  rfl

/-! ## The semantic order -/

/-- **Among releases of one length** zeros at the end make no difference. -/
theorem dropTrailingZeros_lt_iff {ns ms : List Nat} (h : ns.length = ms.length) :
    dropTrailingZeros ns < dropTrailingZeros ms ↔ ns < ms := by
  induction ns generalizing ms with
  | nil =>
    obtain rfl := List.eq_nil_of_length_eq_zero h.symm
    exact iff_of_false (lt_irrefl _) (lt_irrefl _)
  | cons n ns ih =>
    obtain ⟨m, ms, rfl⟩ := List.exists_cons_of_length_eq_add_one h.symm
    have hrest := ih (Nat.succ.inj h)
    rw [List.cons_lt_cons_iff, ← hrest, dropTrailingZeros_cons, dropTrailingZeros_cons]
    by_cases hn : n = 0 ∧ dropTrailingZeros ns = [] <;>
      by_cases hm : m = 0 ∧ dropTrailingZeros ms = []
    · rw [if_pos hn, if_pos hm, hn.1, hn.2, hm.1, hm.2]
      simp
    · -- something follows the zeros of the second only
      rw [if_pos hn, if_neg hm, hn.1, hn.2]
      refine iff_of_true (List.nil_lt_cons _ _) ?_
      rcases Nat.eq_zero_or_pos m with rfl | hpos
      · obtain ⟨k, ks, hk⟩ := List.exists_cons_of_ne_nil fun hnil => hm ⟨rfl, hnil⟩
        rw [hk]
        exact .inr ⟨rfl, List.nil_lt_cons _ _⟩
      · exact .inl hpos
    · rw [if_neg hn, if_pos hm, hm.1, hm.2]
      simp
    · rw [if_neg hn, if_neg hm, List.cons_lt_cons_iff]

/-- Plain releases are ordered by their numbers. -/
theorem key_lt_iff_of_release {ns ms : List Nat} (h : ns.length = ms.length) :
    (⟨0, ns, none, none, none, []⟩ : Version).key < (⟨0, ms, none, none, none, []⟩ : Version).key ↔
      ns < ms := by
  rw [← dropTrailingZeros_lt_iff h]
  simp [key, List.cons_lt_cons_iff, preKey, postKey, devKey]

/-! ## The lexical order -/

/-- Texts that begin with runs of one length are ordered by these runs first. -/
theorem append_lt_append_iff {ds es rest rest' : List Char} (h : ds.length = es.length) :
    ds ++ rest < es ++ rest' ↔ ds < es ∨ ds = es ∧ rest < rest' := by
  induction ds generalizing es with
  | nil =>
    obtain rfl := List.eq_nil_of_length_eq_zero h.symm
    simp
  | cons c ds ih =>
    obtain ⟨e, es, rfl⟩ := List.exists_cons_of_length_eq_add_one h.symm
    rw [List.cons_append, List.cons_append, List.cons_lt_cons_iff, List.cons_lt_cons_iff,
      ih (Nat.succ.inj h), List.cons.injEq]
    tauto

/-- A number grows by more than what any digits behind it can make good. -/
theorem foldl_lt_foldl {ds es : List Char} (h : ds.length = es.length)
    (hds : ∀ c ∈ ds, Text.isAsciiDigit c = true) {n m : Nat} (hlt : n < m) :
    ds.foldl (fun n c => n * 10 + (c.toNat - '0'.toNat)) n <
      es.foldl (fun n c => n * 10 + (c.toNat - '0'.toNat)) m := by
  induction ds generalizing es n m with
  | nil =>
    obtain rfl := List.eq_nil_of_length_eq_zero h.symm
    exact hlt
  | cons c ds ih =>
    obtain ⟨e, es, rfl⟩ := List.exists_cons_of_length_eq_add_one h.symm
    obtain ⟨hc, hds⟩ := List.forall_mem_cons.mp hds
    have hbounds := digit_bounds hc
    have hzero : '0'.toNat = 48 := rfl
    have hstep : n * 10 + (c.toNat - '0'.toNat) < m * 10 + (e.toNat - '0'.toNat) := by omega
    exact ih (Nat.succ.inj h) hds hstep

theorem value_lt_of_lt {ds es : List Char} (h : ds.length = es.length)
    (hds : ∀ c ∈ ds, Text.isAsciiDigit c = true) (hlt : ds < es) : value ds < value es := by
  have hfrom : ∀ n, ds.foldl (fun n c => n * 10 + (c.toNat - '0'.toNat)) n <
      es.foldl (fun n c => n * 10 + (c.toNat - '0'.toNat)) n := by
    induction ds generalizing es with
    | nil =>
      obtain rfl := List.eq_nil_of_length_eq_zero h.symm
      exact absurd hlt (lt_irrefl _)
    | cons c ds ih =>
      intro n
      obtain ⟨e, es, rfl⟩ := List.exists_cons_of_length_eq_add_one h.symm
      obtain ⟨hc, hds⟩ := List.forall_mem_cons.mp hds
      rcases List.cons_lt_cons_iff.mp hlt with hce | ⟨rfl, hrest⟩
      · have hbounds := digit_bounds hc
        have hzero : '0'.toNat = 48 := rfl
        have hce : c.toNat < e.toNat := hce
        have hstep : n * 10 + (c.toNat - '0'.toNat) < n * 10 + (e.toNat - '0'.toNat) := by omega
        exact foldl_lt_foldl (Nat.succ.inj h) hds hstep
      · exact ih (Nat.succ.inj h) hds hrest _
  exact hfrom 0

/-- **Digits of one width are ordered as their values.** -/
theorem value_lt_iff {ds es : List Char} (h : ds.length = es.length)
    (hds : ∀ c ∈ ds, Text.isAsciiDigit c = true) (hes : ∀ c ∈ es, Text.isAsciiDigit c = true) :
    (value ds < value es ↔ ds < es) ∧ (value ds = value es ↔ ds = es) := by
  rcases lt_trichotomy ds es with hlt | rfl | hgt
  · have hvalue := value_lt_of_lt h hds hlt
    exact ⟨iff_of_true hvalue hlt, iff_of_false hvalue.ne hlt.ne⟩
  · simp
  · have hvalue := value_lt_of_lt h.symm hes hgt
    exact ⟨iff_of_false hvalue.asymm hgt.asymm, iff_of_false hvalue.ne' hgt.ne'⟩

/-- **Segment by segment**: with the points below each other, the characters are ordered as the
numbers. -/
theorem flatMap_lt_iff {v t : List (List Char)} (hv : ∀ ds ∈ v, IsNumeral ds)
    (ht : ∀ ds ∈ t, IsNumeral ds) (hwidths : v.map List.length = t.map List.length) :
    v.flatMap ('.' :: ·) < t.flatMap ('.' :: ·) ↔ v.map value < t.map value := by
  induction v generalizing t with
  | nil =>
    obtain rfl := List.map_eq_nil_iff.mp hwidths.symm
    exact iff_of_false (lt_irrefl _) (lt_irrefl _)
  | cons ds v ih =>
    obtain ⟨es, t, rfl, hwidth, hwidths⟩ := List.map_eq_cons_iff.mp hwidths.symm
    obtain ⟨hds, hv⟩ := List.forall_mem_cons.mp hv
    obtain ⟨hes, ht⟩ := List.forall_mem_cons.mp ht
    obtain ⟨hlt, heq⟩ := value_lt_iff hwidth.symm hds.digits hes.digits
    rw [List.flatMap_cons, List.flatMap_cons, List.cons_append, List.cons_append,
      List.cons_lt_cons_self, append_lt_append_iff hwidth.symm, ih hv ht hwidths.symm, List.map_cons,
      List.map_cons, List.cons_lt_cons_iff, hlt, heq]

theorem dotted_lt_iff {v t : List (List Char)} (hne : v ≠ []) (hv : ∀ ds ∈ v, IsNumeral ds)
    (ht : ∀ ds ∈ t, IsNumeral ds) (hwidths : v.map List.length = t.map List.length) :
    dotted v < dotted t ↔ v.map value < t.map value := by
  obtain ⟨first, more, rfl⟩ := List.exists_cons_of_ne_nil hne
  obtain ⟨first', more', rfl, -, -⟩ := List.map_eq_cons_iff.mp hwidths.symm
  -- one more point in front of both changes nothing
  rw [← flatMap_lt_iff hv ht hwidths, String.lt_iff_toList_lt, toList_dotted, toList_dotted,
    List.flatMap_cons, List.flatMap_cons, List.cons_append, List.cons_append,
    List.cons_lt_cons_self]

/-- **The two schemes agree where the widths agree.** For versions of numbers with points between
them, each number short enough to be read, whose numbers have the same widths one by one, both
schemes decide in the same way, by the numbers from left to right. -/
theorem schemes_agree {v t : List (List Char)} (hne : v ≠ []) (hv : ∀ ds ∈ v, IsNumeral ds)
    (ht : ∀ ds ∈ t, IsNumeral ds) (hshort : ∀ ds ∈ v ++ t, ds.length ≤ Text.maxDigits)
    (hwidths : v.map List.length = t.map List.length) :
    compareTexts (dotted v) (dotted t) .lexical = compareTexts (dotted v) (dotted t) .semantic ∧
    compareTexts (dotted v) (dotted t) .lexical =
      if v.map value < t.map value then .below else .notBelow := by
  have hne' : t ≠ [] := by
    rintro rfl
    exact hne (List.map_eq_nil_iff.mp hwidths)
  have hlength : (v.map value).length = (t.map value).length := by
    simpa using congrArg List.length hwidths
  have hlexical : compareTexts (dotted v) (dotted t) .lexical =
      if v.map value < t.map value then .below else .notBelow := by
    simp only [compareTexts_lexical, dotted_lt_iff hne hv ht hwidths]
  refine ⟨?_, hlexical⟩
  obtain ⟨hshort, hshort'⟩ := List.forall_mem_append.mp hshort
  rw [hlexical, compareTexts_of_read (read_dotted hne hv hshort) (read_dotted hne' ht hshort')]
  simp only [key_lt_iff_of_release hlength]

/-- Numbers with zeros in front of them and behind the one that decides. -/
theorem schemes_agree_padded :
    dotted [['4'], ['0', '9'], ['0', '0']] = "4.09.00" ∧
      dotted [['4'], ['1', '7'], ['0', '0']] = "4.17.00" ∧
      compareTexts "4.09.00" "4.17.00" .lexical = compareTexts "4.09.00" "4.17.00" .semantic ∧
      compareTexts "4.09.00" "4.17.00" .lexical = .below := by
  have hnumeral : ∀ ds : List Char, (ds ≠ [] ∧ ds.all Text.isAsciiDigit = true) → IsNumeral ds :=
    fun ds h => ⟨h.1, List.all_eq_true.mp h.2⟩
  have hnumerals : ∀ second : List Char, (second ≠ [] ∧ second.all Text.isAsciiDigit = true) →
      ∀ ds ∈ [['4'], second, ['0', '0']], IsNumeral ds := by
    intro second hsecond
    simp only [List.forall_mem_cons]
    exact ⟨hnumeral _ (by decide), hnumeral _ hsecond, hnumeral _ (by decide), by simp⟩
  obtain ⟨hagree, hbelow⟩ := schemes_agree (by decide) (hnumerals ['0', '9'] (by decide))
    (hnumerals ['1', '7'] (by decide)) (by decide) rfl
  exact ⟨rfl, rfl, hagree, hbelow⟩

/-- Without the zero in front the widths differ, and so do the schemes. -/
example : compareTexts "4.9.00" "4.17.00" .lexical = .notBelow ∧
    compareTexts "4.9.00" "4.17.00" .semantic = .below := by decide

end Advisor.Version
