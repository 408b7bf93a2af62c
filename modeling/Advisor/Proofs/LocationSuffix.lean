import Advisor.Proofs.Directive
import Advisor.Proofs.Wording
import Mathlib

/-!
# Locations cut off messages

`Suffixed` is a message in its parts: what comes first, blanks, a location, and perhaps a line feed.
A message has such parts in one way only (`Suffixed.text_injective`). Cutting reads the message from
its end; a search for the pattern reads it from its start, takes as many blanks as it can, and goes
on behind a match (`Attempt.Erased`). Both leave the same (`location_removed_once`): of the parts,
the first and the last, and of any other message, everything.
-/

namespace Advisor

/-! ## Runs at the end of a text -/

namespace Text

variable {p : Char → Bool} {front front' run run' : List Char}

/-- A run of characters of one kind is dropped from the end as a whole, and nothing else. -/
theorem rdropWhile_append_run (hend : ∀ c ∈ front.getLast?, p c = false)
    (hrun : ∀ c ∈ run, p c = true) : (front ++ run).rdropWhile p = front := by
  have hall : ∀ c ∈ run.reverse, p c = true := by simpa using hrun
  rw [List.rdropWhile, List.reverse_append, List.dropWhile_append_of_pos hall]
  refine List.rdropWhile_eq_self_iff.mpr fun hne => ?_
  rw [Bool.not_eq_true]
  exact hend _ (List.getLast?_eq_getLast_of_ne_nil hne)

/-- **Where a run begins is seen from its end.** -/
theorem eq_of_append_run (hend : ∀ c ∈ front.getLast?, p c = false)
    (hend' : ∀ c ∈ front'.getLast?, p c = false) (hrun : ∀ c ∈ run, p c = true)
    (hrun' : ∀ c ∈ run', p c = true) (h : front ++ run = front' ++ run') :
    front = front' ∧ run = run' := by
  have hfront : front = front' := by
    rw [← rdropWhile_append_run hend hrun, h, rdropWhile_append_run hend' hrun']
  subst hfront
  exact ⟨rfl, List.append_cancel_left h⟩

/-- The same for a run that a given character goes before. -/
theorem eq_of_append_cons_run {c : Char} (hc : p c = false) (hrun : ∀ c ∈ run, p c = true)
    (hrun' : ∀ c ∈ run', p c = true) (h : front ++ c :: run = front' ++ c :: run') :
    front = front' ∧ run = run' := by
  have hend (text : List Char) : ∀ d ∈ (text ++ [c]).getLast?, p d = false := by
    simpa using hc
  rw [← List.singleton_append, ← List.singleton_append (l := run'), ← List.append_assoc,
    ← List.append_assoc] at h
  obtain ⟨hfront, hruns⟩ := eq_of_append_run (hend front) (hend front') hrun hrun' h
  exact ⟨List.append_cancel_right hfront, hruns⟩

end Text

/-! ## Patterns that reach the end of a text -/

namespace Attempt

variable {a b : Attempt} {p : Char → Bool} {text rest : List Char}

/-- Some way to match a pattern leaves `rest` of a text. -/
def Leaves (a : Attempt) (text rest : List Char) : Prop := ∃ w ∈ ways a text, w.rest = rest

theorem leaves_one_iff : (one p).Leaves text rest ↔ ∃ c, p c = true ∧ text = c :: rest := by
  cases text with
  | nil => simp [Leaves, ways]
  | cons c text => by_cases hc : p c = true <;> simp [Leaves, ways, hc]

theorem leaves_many_iff : (many p).Leaves text rest ↔
    ∃ taken, taken ≠ [] ∧ (∀ c ∈ taken, p c = true) ∧ text = taken ++ rest := by
  rw [← mem_behind_iff]
  simp [Leaves, ways]

theorem leaves_seq_iff :
    (seq a b).Leaves text rest ↔ ∃ between, a.Leaves text between ∧ b.Leaves between rest := by
  simp [Leaves, ways, and_assoc]

theorem leaves_opt_iff : (opt a).Leaves text rest ↔ a.Leaves text rest ∨ text = rest := by
  simp [Leaves, ways, or_and_right, exists_or]

/-- As many characters as can be had first, and none last. -/
theorem leaves_opt_many_iff : (opt (many p)).Leaves text rest ↔
    ∃ taken, (∀ c ∈ taken, p c = true) ∧ text = taken ++ rest := by
  rw [leaves_opt_iff, leaves_many_iff]
  constructor
  · rintro (⟨taken, -, htaken⟩ | rfl)
    · exact ⟨taken, htaken⟩
    · exact ⟨[], by simp, rfl⟩
  · rintro ⟨taken, hall, rfl⟩
    by_cases hnil : taken = []
    · exact .inr (by rw [hnil, List.nil_append])
    · exact .inl ⟨taken, hnil, hall, rfl⟩

/-- The end of a text: nothing is left, or the line feed that ends it. -/
def atEnd (rest : List Char) : Bool := rest == [] || rest == ['\n']

theorem atEnd_iff : atEnd rest = true ↔ rest = [] ∨ rest = ['\n'] := by simp [atEnd]

/-- What the first way to match a pattern up to the end of a text leaves. -/
def toEnd? (a : Attempt) (text : List Char) : Option (List Char) :=
  ((ways a text).map Way.rest).find? atEnd

theorem leaves_of_toEnd? (h : a.toEnd? text = some rest) :
    a.Leaves text rest ∧ (rest = [] ∨ rest = ['\n']) :=
  ⟨List.mem_map.mp (List.mem_of_find?_eq_some h), atEnd_iff.mp (List.find?_some h)⟩

theorem toEnd?_isSome_of_leaves (h : a.Leaves text rest) (hrest : rest = [] ∨ rest = ['\n']) :
    (a.toEnd? text).isSome :=
  List.find?_isSome.mpr ⟨rest, List.mem_map.mpr h, atEnd_iff.mpr hrest⟩

/-- **All matches up to the end are erased**, from the left: the search goes on behind a match, and
where there is none a character is kept. The number counts the matches. The pattern is one that does
not match the empty text. -/
inductive Erased (a : Attempt) : List Char → List Char → Nat → Prop
  | done : Erased a [] [] 0
  | kept {c : Char} {text out : List Char} {n : Nat} :
      a.toEnd? (c :: text) = none → Erased a text out n → Erased a (c :: text) (c :: out) n
  | matched {text rest out : List Char} {n : Nat} :
      a.toEnd? text = some rest → Erased a rest out n → Erased a text out (n + 1)

end Attempt

namespace Diagnosis

open Attempt Text

/-! ## The parts of a message -/

/-- A message that ends with a location, in its parts. All blanks before the location are in
`blanks`, so `front` does not end with one. -/
structure Suffixed where
  front : List Char
  blanks : List Char
  line : List Char
  column : List Char
  /-- Nothing, or one line feed. -/
  behind : List Char
  front_end : ∀ c ∈ front.getLast?, isBlank c = false
  blanks_blank : ∀ c ∈ blanks, isBlank c = true
  line_ne : line ≠ []
  line_digits : ∀ c ∈ line, isDecimalDigit c = true
  column_ne : column ≠ []
  column_digits : ∀ c ∈ column, isDecimalDigit c = true
  behind_eq : behind = [] ∨ behind = ['\n']

namespace Suffixed

/-- The message. -/
def text (m : Suffixed) : List Char :=
  m.front ++ m.blanks ++ '(' :: m.line ++ ':' :: m.column ++ ')' :: m.behind

theorem text_ne_nil (m : Suffixed) : m.text ≠ [] := by simp [text]

/-- What is behind a location is too short for another one. -/
theorem text_ne_behind (m m' : Suffixed) : m'.text ≠ m.behind := by
  intro h
  have hbracket : ')' ∈ m.behind := by
    rw [← h, text]
    simp
  rcases m.behind_eq with hb | hb <;> rw [hb] at hbracket <;> exact absurd hbracket (by decide)

theorem getLast?_text (m : Suffixed) : m.text.getLast? = (')' :: m.behind).getLast? :=
  List.getLast?_append_of_ne_nil _ (List.cons_ne_nil _ _)

/-- What is behind the closing bracket is seen from the last character. -/
theorem behind_eq_of_text_eq {m m' : Suffixed} (h : m.text = m'.text) : m.behind = m'.behind := by
  have hlast : (')' :: m.behind).getLast? = (')' :: m'.behind).getLast? := by
    rw [← getLast?_text, ← getLast?_text, h]
  rcases m.behind_eq with hb | hb <;> rcases m'.behind_eq with hb' | hb' <;>
    rw [hb, hb'] at hlast ⊢
  · exact absurd hlast (by decide)
  · exact absurd hlast (by decide)

/-- **A message has these parts in one way only.** Read from the end, each part reaches up to a
character that cannot belong to it. -/
theorem text_injective : Function.Injective text := by
  intro m m' h
  have hbehind := behind_eq_of_text_eq h
  rw [text, text, hbehind] at h
  obtain ⟨hcolumns, hcolumn⟩ := eq_of_append_cons_run (p := isDecimalDigit) (by decide)
    m.column_digits m'.column_digits (List.append_cancel_right h)
  obtain ⟨hlines, hline⟩ := eq_of_append_cons_run (p := isDecimalDigit) (by decide)
    m.line_digits m'.line_digits hcolumns
  obtain ⟨hfront, hblanks⟩ := eq_of_append_run m.front_end m'.front_end
    m.blanks_blank m'.blanks_blank hlines
  cases m
  cases m'
  simp_all

/-- What stands between the blanks and the end. -/
def location (m : Suffixed) : List Char := '(' :: m.line ++ ':' :: m.column ++ [')']

theorem text_eq (m : Suffixed) : m.text = m.front ++ m.blanks ++ m.location ++ m.behind := by
  simp [text, location]

theorem isLocation (m : Suffixed) : IsLocation m.location :=
  ⟨m.line, m.column, m.line_ne, m.column_ne, m.line_digits, m.column_digits, rfl⟩

/-- The message with one character more in front of it. -/
def cons (c : Char) (m : Suffixed) (h : m.front = [] → isBlank c = false) : Suffixed :=
  { m with
    front := c :: m.front
    front_end := by
      cases hfront : m.front with
      | nil => simpa using h hfront
      | cons d rest =>
        rw [List.getLast?_cons_cons, ← hfront]
        exact m.front_end }

/-- The message without its first character, if that is not in the blanks yet. -/
theorem exists_tail (m : Suffixed) {c : Char} {rest : List Char} (hfront : m.front ≠ [])
    (h : m.text = c :: rest) : ∃ m' : Suffixed, m'.text = rest := by
  obtain ⟨d, front, hd⟩ := List.exists_cons_of_ne_nil hfront
  have hend : ∀ x ∈ front.getLast?, isBlank x = false := by
    intro x hx
    refine m.front_end x ?_
    rw [hd, List.getLast?_cons, Option.mem_def.mp hx]
    rfl
  rw [text, hd] at h
  exact ⟨{ m with front := front, front_end := hend }, (List.cons.inj h).2⟩

/-- Every message that ends with a location has these parts: the blanks are those at the end of
what is before the location. -/
theorem exists_of_endsInLocation {message : List Char} (h : EndsInLocation message) :
    ∃ m : Suffixed, m.text = message := by
  obtain ⟨before, _, behind, ⟨line, column, hline, hcolumn, hlines, hcolumns, rfl⟩, hbehind,
    rfl⟩ := h
  refine ⟨⟨before.rdropWhile isBlank, before.rtakeWhile isBlank, line, column, behind, ?_,
    fun c hc => List.mem_rtakeWhile_imp hc, hline, hlines, hcolumn, hcolumns, hbehind⟩, ?_⟩
  · intro c hc
    obtain ⟨hne, rfl⟩ := List.mem_getLast?_eq_getLast hc
    exact Bool.not_eq_true _ ▸ List.rdropWhile_last_not isBlank before hne
  · rw [text, List.rdropWhile_append_rtakeWhile]
    simp

end Suffixed

/-! ## Cutting -/

/-- **What is read backwards as a location** is all of it, up to its opening bracket. -/
theorem dropLocation_of_isLocation {location : List Char} (h : IsLocation location)
    (rest : List Char) : dropLocation (location.reverse ++ rest) = some rest := by
  obtain ⟨line, column, hline, hcolumn, hlines, hcolumns, rfl⟩ := h
  have hdrop {digits : List Char} (hdigits : ∀ c ∈ digits, isDecimalDigit c = true) {c : Char}
      (hc : isDecimalDigit c = false) (more : List Char) :
      (digits.reverse ++ c :: more).dropWhile isDecimalDigit = c :: more := by
    rw [List.dropWhile_append_of_pos (by simpa using hdigits),
      List.dropWhile_cons_of_neg (by simp [hc])]
  have hshape : ('(' :: line ++ ':' :: column ++ [')']).reverse ++ rest =
      ')' :: (column.reverse ++ ':' :: (line.reverse ++ '(' :: rest)) := by simp
  rw [hshape, dropLocation]
  simp [hdrop hcolumns (c := ':') (by decide), hdrop hlines (c := '(') (by decide), hline, hcolumn]

/-- A message that ends with a line feed is read from before it. -/
theorem stripLocation_lineFeed (front : List Char) : stripLocation (front ++ ['\n']) =
    ((dropLocation front.reverse).map (stripEnd ·.reverse ++ ['\n'])).getD (front ++ ['\n']) := by
  simp [stripLocation, stripEnd, Function.comp_def]

/-- Any other message is read from its end. -/
theorem stripLocation_of_ne_lineFeed {message : List Char} (h : message.getLast? ≠ some '\n') :
    stripLocation message =
      ((dropLocation message.reverse).map (stripEnd ·.reverse)).getD message := by
  rw [stripLocation]
  split
  · rename_i rest hrest
    rw [← List.head?_reverse, hrest] at h
    exact absurd rfl h
  · simp [stripEnd]

/-- **The location and the blanks in front of it are removed**, and a line feed behind it stays. -/
theorem stripLocation_text (m : Suffixed) : stripLocation m.text = m.front ++ m.behind := by
  have hfront : stripEnd (m.front ++ m.blanks) = m.front :=
    rdropWhile_append_run m.front_end m.blanks_blank
  have hdrop : dropLocation (m.front ++ m.blanks ++ m.location).reverse =
      some (m.front ++ m.blanks).reverse := by
    rw [List.reverse_append]
    exact dropLocation_of_isLocation m.isLocation _
  rw [m.text_eq]
  rcases m.behind_eq with hb | hb
  · have hlast : (m.front ++ m.blanks ++ m.location).getLast? ≠ some '\n' := by
      rw [Suffixed.location, ← List.append_assoc, List.getLast?_concat]
      decide
    rw [hb, List.append_nil, stripLocation_of_ne_lineFeed hlast, hdrop]
    simp [hfront]
  · rw [hb, stripLocation_lineFeed, hdrop]
    simp [hfront]

/-- **A message that has no such parts stays as it is.** -/
theorem stripLocation_of_plain {message : List Char} (h : ∀ m : Suffixed, m.text ≠ message) :
    stripLocation message = message := by
  refine stripLocation_of_not fun hends => ?_
  obtain ⟨m, hm⟩ := Suffixed.exists_of_endsInLocation hends
  exact h m hm

/-! ## What is left of a message -/

/-- What is left of a message, and how many locations are cut off it. -/
inductive Shortened : List Char → List Char → Nat → Prop
  | suffixed (m : Suffixed) : Shortened m.text (m.front ++ m.behind) 1
  | plain {message : List Char} : (∀ m : Suffixed, m.text ≠ message) → Shortened message message 0

namespace Shortened

variable {message out : List Char} {n : Nat}

theorem iff_of_suffixed (m : Suffixed) :
    Shortened m.text out n ↔ out = m.front ++ m.behind ∧ n = 1 := by
  constructor
  · generalize htext : m.text = message
    rintro (m' | hnone)
    · rw [Suffixed.text_injective htext]
      exact ⟨rfl, rfl⟩
    · exact absurd htext (hnone m)
  · rintro ⟨rfl, rfl⟩
    exact .suffixed m

theorem iff_of_plain (hnone : ∀ m : Suffixed, m.text ≠ message) :
    Shortened message out n ↔ out = message ∧ n = 0 := by
  constructor
  · rintro (m | -)
    · exact absurd rfl (hnone m)
    · exact ⟨rfl, rfl⟩
  · rintro ⟨rfl, rfl⟩
    exact .plain hnone

theorem unique {out' : List Char} {n' : Nat} (h : Shortened message out n)
    (h' : Shortened message out' n') : out = out' ∧ n = n' := by
  cases h with
  | suffixed m =>
    obtain ⟨rfl, rfl⟩ := (iff_of_suffixed m).mp h'
    exact ⟨rfl, rfl⟩
  | plain hnone =>
    obtain ⟨rfl, rfl⟩ := (iff_of_plain hnone).mp h'
    exact ⟨rfl, rfl⟩

end Shortened

/-! ## The search for locations -/

/-- Blanks and a location, read from the left. -/
def locationPattern : Attempt :=
  .seq (.opt (.many isBlank)) (.seq (.one (· == '(')) (.seq (.many isDecimalDigit)
    (.seq (.one (· == ':')) (.seq (.many isDecimalDigit) (.one (· == ')'))))))

theorem leaves_locationPattern_iff {text rest : List Char} :
    locationPattern.Leaves text rest ↔ ∃ blanks line column, (∀ c ∈ blanks, isBlank c = true) ∧
      line ≠ [] ∧ (∀ c ∈ line, isDecimalDigit c = true) ∧
      column ≠ [] ∧ (∀ c ∈ column, isDecimalDigit c = true) ∧
      text = blanks ++ '(' :: line ++ ':' :: column ++ ')' :: rest := by
  simp only [locationPattern, leaves_seq_iff, leaves_opt_many_iff, leaves_one_iff, leaves_many_iff,
    beq_iff_eq]
  constructor
  · rintro ⟨_, ⟨blanks, hblanks, rfl⟩, _, ⟨_, rfl, rfl⟩, _, ⟨line, hline, hlines, rfl⟩, _,
      ⟨_, rfl, rfl⟩, _, ⟨column, hcolumn, hcolumns, rfl⟩, _, rfl, rfl⟩
    exact ⟨blanks, line, column, hblanks, hline, hlines, hcolumn, hcolumns, by simp⟩
  · rintro ⟨blanks, line, column, hblanks, hline, hlines, hcolumn, hcolumns, rfl⟩
    refine ⟨_, ⟨blanks, hblanks, ?_⟩, _, ⟨_, rfl, rfl⟩, _, ⟨line, hline, hlines, rfl⟩, _,
      ⟨_, rfl, rfl⟩, _, ⟨column, hcolumn, hcolumns, rfl⟩, _, rfl, rfl⟩
    simp

/-- **A match is a message with nothing in front.** Which way is tried first does not matter, as
there is one way only. -/
theorem toEnd?_locationPattern_iff {text rest : List Char} :
    locationPattern.toEnd? text = some rest ↔
      ∃ m : Suffixed, m.front = [] ∧ m.text = text ∧ m.behind = rest := by
  have hparts {rest : List Char} (h : locationPattern.toEnd? text = some rest) :
      ∃ m : Suffixed, m.front = [] ∧ m.text = text ∧ m.behind = rest := by
    obtain ⟨hleaves, hrest⟩ := leaves_of_toEnd? h
    obtain ⟨blanks, line, column, hblanks, hline, hlines, hcolumn, hcolumns, htext⟩ :=
      leaves_locationPattern_iff.mp hleaves
    exact ⟨⟨[], blanks, line, column, rest, by simp, hblanks, hline, hlines, hcolumn, hcolumns,
      hrest⟩, rfl, htext.symm, rfl⟩
  refine ⟨hparts, ?_⟩
  rintro ⟨m, hfront, rfl, rfl⟩
  have hleaves : locationPattern.Leaves m.text m.behind :=
    leaves_locationPattern_iff.mpr ⟨m.blanks, m.line, m.column, m.blanks_blank, m.line_ne,
      m.line_digits, m.column_ne, m.column_digits, by rw [Suffixed.text, hfront, List.nil_append]⟩
  obtain ⟨rest, hrest⟩ := Option.isSome_iff_exists.mp (toEnd?_isSome_of_leaves hleaves m.behind_eq)
  obtain ⟨m', -, htext, rfl⟩ := hparts hrest
  rw [hrest, Suffixed.behind_eq_of_text_eq htext]

/-- **One step of the search.** A character at which nothing matches stays, and what is left of the
text behind it is left there. -/
theorem Shortened.cons {text out : List Char} {n : Nat} {c : Char}
    (hc : locationPattern.toEnd? (c :: text) = none) (h : Shortened text out n) :
    Shortened (c :: text) (c :: out) n := by
  have hstart (m : Suffixed) (htext : m.text = c :: text) : m.front ≠ [] := by
    intro hfront
    rw [toEnd?_locationPattern_iff.mpr ⟨m, hfront, htext, rfl⟩] at hc
    cases hc
  cases h with
  | suffixed m =>
    -- A blank right before the blanks of the message would belong to the match.
    have hblank : m.front = [] → isBlank c = false := by
      intro hfront
      by_contra hblank
      rw [Bool.not_eq_false] at hblank
      have hblanks : ∀ d ∈ c :: m.blanks, isBlank d = true :=
        List.forall_mem_cons.mpr ⟨hblank, m.blanks_blank⟩
      refine hstart { m with blanks := c :: m.blanks, blanks_blank := hblanks } ?_ hfront
      simp [Suffixed.text, hfront]
    exact .suffixed (m.cons c hblank)
  | plain hnone =>
    refine .plain fun m hm => ?_
    obtain ⟨m', hm'⟩ := m.exists_tail (hstart m hm) hm
    exact hnone m' hm'

/-- **A run of the search** leaves what cutting from the end leaves. -/
theorem shortened_of_erased {message out : List Char} {n : Nat}
    (h : locationPattern.Erased message out n) : Shortened message out n := by
  induction h with
  | done => exact .plain Suffixed.text_ne_nil
  | kept hc _ ih => exact ih.cons hc
  | matched hmatch _ ih =>
    obtain ⟨m, hfront, rfl, rfl⟩ := toEnd?_locationPattern_iff.mp hmatch
    -- A second match would have to be in what is behind the first.
    obtain ⟨rfl, rfl⟩ := (Shortened.iff_of_plain m.text_ne_behind).mp ih
    simpa [hfront] using Shortened.suffixed m

/-- **The search comes to an end**: behind a match there is a line feed at most. -/
theorem exists_erased (message : List Char) : ∃ out n, locationPattern.Erased message out n := by
  have hbehind (m : Suffixed) : locationPattern.Erased m.behind m.behind 0 := by
    rcases m.behind_eq with hb | hb
    · rw [hb]
      exact .done
    · rw [hb]
      refine .kept ?_ .done
      rw [Option.eq_none_iff_forall_ne_some]
      intro rest hrest
      obtain ⟨m', -, htext, -⟩ := toEnd?_locationPattern_iff.mp hrest
      exact m.text_ne_behind m' (hb ▸ htext)
  induction message with
  | nil => exact ⟨_, _, .done⟩
  | cons c text ih =>
    cases hmatch : locationPattern.toEnd? (c :: text) with
    | none =>
      obtain ⟨out, n, herased⟩ := ih
      exact ⟨_, _, .kept hmatch herased⟩
    | some rest =>
      obtain ⟨m, -, -, rfl⟩ := toEnd?_locationPattern_iff.mp hmatch
      exact ⟨_, _, .matched hmatch (hbehind m)⟩

/-- **Searching from the start and reading from the end agree.** -/
theorem erased_iff {message out : List Char} {n : Nat} :
    locationPattern.Erased message out n ↔ Shortened message out n := by
  refine ⟨shortened_of_erased, fun h => ?_⟩
  obtain ⟨out', n', herased⟩ := exists_erased message
  obtain ⟨rfl, rfl⟩ := h.unique (shortened_of_erased herased)
  exact herased

/-- **Locations are removed once.** A message in parts loses the blanks and the location, and keeps
what is before the blanks and the line feed; the parts are the only ones that it has. Any other
message stays as it is. A search for the pattern from the start, which erases every match, leaves
the same: it finds one match in the first case and none in the second. -/
theorem location_removed_once (message : List Char) :
    (∀ m : Suffixed, m.text = message →
      stripLocation message = m.front ++ m.behind ∧
      (∀ m' : Suffixed, m'.text = message → m' = m) ∧
      ∀ out n, locationPattern.Erased message out n ↔ out = m.front ++ m.behind ∧ n = 1) ∧
    ((∀ m : Suffixed, m.text ≠ message) →
      stripLocation message = message ∧
      ∀ out n, locationPattern.Erased message out n ↔ out = message ∧ n = 0) := by
  constructor
  · rintro m rfl
    refine ⟨stripLocation_text m, fun m' h => Suffixed.text_injective h, fun out n => ?_⟩
    rw [erased_iff, Shortened.iff_of_suffixed]
  · intro hnone
    refine ⟨stripLocation_of_plain hnone, fun out n => ?_⟩
    rw [erased_iff, Shortened.iff_of_plain hnone]

/-- A message with two locations, on a line each. The digits of the second are of other scripts. -/
def repeated : Suffixed where
  front := "Unexpected token (1:2)".toList
  blanks := "\n \t".toList
  line := "३".toList
  column := "४٥".toList
  behind := ['\n']
  front_end := by
    rintro _ ⟨⟩
    decide
  blanks_blank := List.all_eq_true.mp rfl
  line_ne := by decide
  line_digits := List.all_eq_true.mp rfl
  column_ne := by decide
  column_digits := List.all_eq_true.mp rfl
  behind_eq := .inr rfl

/-- The first location stays, and so does one that two line feeds follow. -/
theorem location_removed_of_repeated :
    stripLocation repeated.text = "Unexpected token (1:2)\n".toList ∧
      locationPattern.Erased repeated.text "Unexpected token (1:2)\n".toList 1 ∧
      stripLocation "(1:2)\n\n".toList = "(1:2)\n\n".toList ∧
      locationPattern.Erased "(1:2)\n\n".toList "(1:2)\n\n".toList 0 := by
  obtain ⟨hstrip, -, herased⟩ := (location_removed_once repeated.text).1 repeated rfl
  have hnone : ∀ m : Suffixed, m.text ≠ "(1:2)\n\n".toList := by
    intro m hm
    have hreverse := congrArg List.reverse hm
    rw [Suffixed.text, List.reverse_append, List.reverse_cons] at hreverse
    rcases m.behind_eq with hb | hb <;> rw [hb] at hreverse <;> simp at hreverse
  obtain ⟨hstrip', herased'⟩ := (location_removed_once _).2 hnone
  exact ⟨hstrip, (herased _ _).mpr ⟨rfl, rfl⟩, hstrip', (herased' _ _).mpr ⟨rfl, rfl⟩⟩

end Diagnosis

end Advisor
