import Advisor.Proofs.ConfigCheck
import Advisor.Proofs.LetterCase
import Advisor.Proofs.TextScan
import Mathlib

/-!
# What directives ask for

A directive is a pattern: the marker and, if they can be had, blanks and a list of rules. The space
is a blank and a character of lists, so the pattern can match in many ways. `Attempt.ways` lists
them in the order in which a search that steps back tries them; `Asks` says without any stepping
back what the text behind a marker asks for. The two agree with what is computed
(`granted_of_search`, `asks_iff`), so stepping back never changes what a line asks for.
-/

namespace Advisor

/-! ## Parts of a text -/

namespace Text

variable {c : Char} {text part : List Char}

theorem mem_of_mem_splitOn {sep : Char} (hpart : part ∈ text.splitOn sep)
    (hc : c ∈ part) : c ∈ text := by
  induction text generalizing part with
  | nil => simp_all
  | cons d text ih =>
    rw [List.splitOn_cons_eq_if_modifyHead] at hpart
    split at hpart
    · rcases List.mem_cons.mp hpart with rfl | hmem
      · cases hc
      · exact List.mem_cons_of_mem d (ih hmem hc)
    · obtain ⟨first, more, hparts⟩ := List.exists_cons_of_ne_nil (List.splitOn_ne_nil sep text)
      rw [hparts, List.modifyHead_cons] at hpart
      rcases List.mem_cons.mp hpart with rfl | hmem
      · rcases List.mem_cons.mp hc with rfl | hc
        · exact List.mem_cons_self
        · exact List.mem_cons_of_mem d (ih (hparts ▸ List.mem_cons_self) hc)
      · exact List.mem_cons_of_mem d (ih (hparts ▸ List.mem_cons_of_mem first hmem) hc)

theorem mem_of_mem_strip (h : c ∈ strip text) : c ∈ text := by
  rw [strip, stripEnd, List.mem_reverse] at h
  have hdrop := (List.dropWhile_sublist _).mem h
  rw [List.mem_reverse] at hdrop
  exact (List.dropWhile_sublist _).mem hdrop

end Text

/-! ## Patterns that are tried -/

/-- A pattern that is tried on a text from its start, with a part that is remembered. -/
inductive Attempt where
  | one (p : Char → Bool)
  /-- One or more characters, as many as can be had first. -/
  | many (p : Char → Bool)
  | seq (a b : Attempt)
  /-- The pattern if it can be had, and nothing otherwise. -/
  | opt (a : Attempt)
  /-- The pattern, and what it takes is remembered. -/
  | group (a : Attempt)

/-- One way to match a pattern: what is remembered, and the text behind the match. -/
structure Attempt.Way where
  group : Option (List Char)
  rest : List Char

namespace Attempt

/-- The texts behind one or more characters of a kind, the shortest text first. -/
def behind (p : Char → Bool) : List Char → List (List Char)
  | [] => []
  | c :: rest => if p c then behind p rest ++ [rest] else []

/-- All ways to match a pattern at the start of a text, in the order in which they are tried. -/
def ways : Attempt → List Char → List Way
  | one p, c :: rest => if p c then [⟨none, rest⟩] else []
  | one _, [] => []
  | many p, text => (behind p text).map (⟨none, ·⟩)
  | seq a b, text => (ways a text).flatMap fun w =>
      (ways b w.rest).map fun v => ⟨v.group <|> w.group, v.rest⟩
  | opt a, text => ways a text ++ [⟨none, text⟩]
  | group a, text =>
      (ways a text).map fun w => ⟨some (text.take (text.length - w.rest.length)), w.rest⟩

/-- The first way to match a pattern at the leftmost place where there is one. -/
def search (a : Attempt) : List Char → Option Way
  | [] => (ways a []).head?
  | c :: rest => (ways a (c :: rest)).head? <|> search a rest

variable {p : Char → Bool} {text rest : List Char}

theorem mem_behind_iff : rest ∈ behind p text ↔
    ∃ taken, taken ≠ [] ∧ (∀ c ∈ taken, p c = true) ∧ text = taken ++ rest := by
  induction text with
  | nil =>
    simp only [behind, List.not_mem_nil, false_iff]
    rintro ⟨taken, hne, -, h⟩
    exact hne (List.append_eq_nil_iff.mp h.symm).1
  | cons c text ih =>
    rw [behind]
    split
    · rename_i hc
      rw [List.mem_append, List.mem_singleton, ih]
      constructor
      · rintro (⟨taken, -, hall, rfl⟩ | rfl)
        · exact ⟨c :: taken, by simp, by simpa [hc] using hall, rfl⟩
        · exact ⟨[c], by simp, by simpa using hc, rfl⟩
      · rintro ⟨_ | ⟨c', taken⟩, hne, hall, h⟩
        · exact absurd rfl hne
        · obtain ⟨rfl, rfl⟩ := List.cons_eq_cons.mp h
          cases taken with
          | nil => exact .inr rfl
          | cons d ds =>
            exact .inl ⟨d :: ds, by simp, fun x hx => hall x (List.mem_cons_of_mem _ hx), rfl⟩
    · rename_i hc
      simp only [List.not_mem_nil, false_iff]
      rintro ⟨_ | ⟨c', taken⟩, hne, hall, h⟩
      · exact hne rfl
      · obtain ⟨rfl, rfl⟩ := List.cons_eq_cons.mp h
        exact hc (hall c List.mem_cons_self)

theorem behind_of_takeWhile_eq_nil (h : text.takeWhile p = []) : behind p text = [] := by
  cases text with
  | nil => rfl
  | cons c text =>
    rw [behind, if_neg]
    intro hc
    rw [List.takeWhile_cons_of_pos hc] at h
    cases h

/-- The whole run of the characters is tried first. -/
theorem behind_of_takeWhile_ne_nil (h : text.takeWhile p ≠ []) :
    ∃ more, behind p text = text.dropWhile p :: more := by
  induction text with
  | nil => exact absurd rfl h
  | cons c text ih =>
    have hc : p c = true := by
      by_contra hc
      exact h (List.takeWhile_cons_of_neg hc)
    rw [behind, if_pos hc, List.dropWhile_cons_of_pos hc]
    by_cases hrun : text.takeWhile p = []
    · have hdrop : text.dropWhile p = text := by
        conv => rhs; rw [← List.takeWhile_append_dropWhile (p := p) (l := text), hrun]
        rfl
      exact ⟨[], by rw [behind_of_takeWhile_eq_nil hrun, hdrop]; rfl⟩
    · obtain ⟨more, hmore⟩ := ih hrun
      exact ⟨more ++ [text], by rw [hmore]; rfl⟩

end Attempt

namespace Suppression

open Attempt Text

variable {line tail list : List Char}

/-! ## The directive as a pattern -/

/-- What may stand behind a marker. -/
def listPattern : Attempt := .opt (.seq (.many isBlank) (.group (.many isListChar)))

/-- The marker, and a list of rules if it can be had. -/
def pattern : Attempt := (marker.map fun sign => .one (isLetter sign)).foldr .seq listPattern

theorem ways_foldr_seq (signs text : List Char) (a : Attempt) :
    ways ((signs.map fun sign => .one (isLetter sign)).foldr .seq a) text =
      (dropWord signs text).elim [] (ways a) := by
  induction signs generalizing text with
  | nil => rfl
  | cons sign signs ih =>
    cases text with
    | nil => rfl
    | cons c text =>
      rw [List.map_cons, List.foldr_cons, ways, ways, dropWord]
      split
      · simp [ih]
      · rfl

/-- A rule that a list names: a part between commas, stripped and in capitals. -/
def Token (list : List Char) (name : String) : Prop :=
  ∃ part ∈ list.splitOn ',', strip part ≠ [] ∧ name = String.ofList (upper (strip part))

/-- What a list of rules asks for: the rules that it names, or all if it names none. -/
def requested (list : List Char) : Set String :=
  {name | Token list name ∨ name = "*" ∧ ∀ other, ¬ Token list other}

/-- What a match of the pattern asks for. -/
def granted : Option (List Char) → Set String
  | none => {"*"}
  | some list => requested list

/-- The names that a line is entered with. -/
def entry (d : Suppression) : Set String := {name | name ∈ d.listed}

theorem entry_all : entry all = {"*"} := by
  ext name
  simp [entry, listed]

theorem mem_entry_only {rules : List String} {name : String} :
    name ∈ entry (only rules) ↔ name ∈ rules := Text.mem_distinct_iff

theorem mem_names_iff {name : String} : name ∈ names list ↔ Token list name := by
  simp only [names, Token, splitOn_eq_list_splitOn, List.mem_filterMap, List.mem_map]
  constructor
  · rintro ⟨_, ⟨part, hpart, rfl⟩, h⟩
    split at h
    · cases h
    · rename_i hne
      exact ⟨part, hpart, by simpa using hne, (Option.some.inj h).symm⟩
  · rintro ⟨part, hpart, hne, rfl⟩
    exact ⟨_, ⟨part, hpart, rfl⟩, by rw [if_neg (by simpa using hne)]⟩

/-- What the names of a list ask for. -/
def ofNames : List String → Suppression
  | [] => all
  | ns => only ns

/-- Only the list behind the longest run of blanks counts. -/
theorem ofTail_eq (tail : List Char) : ofTail tail =
    if tail.takeWhile isBlank = [] then all
    else ofNames (names ((tail.dropWhile isBlank).takeWhile isListChar)) := by
  have hlength : (tail.dropWhile isBlank).length = tail.length ↔ tail.takeWhile isBlank = [] := by
    have hparts := congrArg List.length (List.takeWhile_append_dropWhile (p := isBlank) (l := tail))
    rw [List.length_append] at hparts
    rw [← List.length_eq_zero_iff]
    omega
  simp only [ofTail, hlength]
  split
  · rfl
  · cases names ((tail.dropWhile isBlank).takeWhile isListChar) <;> rfl

theorem entry_ofNames (list : List Char) : (ofNames (names list)).entry = requested list := by
  ext name
  cases hns : names list with
  | nil =>
    have hnone : ∀ other, ¬ Token list other := fun other h => by
      simpa [hns] using mem_names_iff.mpr h
    simp [ofNames, entry_all, requested, hnone]
  | cons n ns =>
    have hnot : ¬ ∀ other, ¬ Token list other := fun h =>
      h n (mem_names_iff.mp (hns ▸ List.mem_cons_self))
    have honly : ofNames (n :: ns) = only (names list) := by rw [hns]; rfl
    simp [honly, mem_entry_only, mem_names_iff, requested, hnot]

theorem entry_ofTail (tail : List Char) : (ofTail tail).entry =
    if tail.takeWhile isBlank = [] then {"*"}
    else requested ((tail.dropWhile isBlank).takeWhile isListChar) := by
  rw [ofTail_eq]
  split
  · exact entry_all
  · exact entry_ofNames _

/-- A list of blanks names nothing. -/
theorem requested_of_blank (h : ∀ c ∈ list, isBlank c = true) : requested list = {"*"} := by
  have hnone : ∀ other, ¬ Token list other := by
    rintro other ⟨part, hpart, hne, -⟩
    have hcomma : ',' ∉ list := fun hmem => absurd (h ',' hmem) (by decide)
    rw [List.splitOn_eq_singleton hcomma, List.mem_singleton] at hpart
    subst hpart
    have hdrop : part.dropWhile isBlank = [] := List.dropWhile_eq_nil_iff.mpr h
    exact hne (by rw [strip, hdrop]; rfl)
  ext name
  simp [requested, hnone]

/-- Without a blank, or without a list behind the blanks, all rules are asked for. -/
theorem entry_ofTail_of_stop (h : tail.takeWhile isBlank = [] ∨
    (tail.dropWhile isBlank).takeWhile isListChar = []) : (ofTail tail).entry = {"*"} := by
  rw [entry_ofTail]
  split
  · rfl
  · rename_i hblanks
    rw [h.resolve_left hblanks]
    exact requested_of_blank (by simp)

/-! ## Stepping back -/

/-- The ways to match blanks and a list. -/
def listings (tail : List Char) : List Way :=
  (behind isBlank tail).flatMap fun body => (behind isListChar body).map fun rest =>
    ⟨some (body.take (body.length - rest.length)), rest⟩

theorem ways_listPattern (tail : List Char) :
    ways listPattern tail = listings tail ++ [⟨none, tail⟩] := by
  simp [listPattern, listings, ways, List.flatMap_map, Function.comp_def]

theorem exists_of_mem_listings {w : Way} (h : w ∈ listings tail) :
    ∃ blanks list, w.group = some list ∧ (∀ c ∈ blanks, isBlank c = true) ∧
      (∀ c ∈ list, isListChar c = true) ∧ tail = blanks ++ list ++ w.rest := by
  obtain ⟨body, hbody, hw⟩ := List.mem_flatMap.mp h
  obtain ⟨rest, hrest, rfl⟩ := List.mem_map.mp hw
  obtain ⟨blanks, -, hblanks, rfl⟩ := mem_behind_iff.mp hbody
  obtain ⟨list, -, hlist, rfl⟩ := mem_behind_iff.mp hrest
  refine ⟨blanks, list, ?_, hblanks, hlist, (List.append_assoc ..).symm⟩
  simp

/-- **If no list follows the longest run of blanks**, a search that steps back can only remember
blanks that it has given back. -/
theorem blank_of_given_back {blanks rest : List Char} (hblanks : ∀ c ∈ blanks, isBlank c = true)
    (hlist : ∀ c ∈ list, isListChar c = true)
    (hstop : ((blanks ++ list ++ rest).dropWhile isBlank).takeWhile isListChar = []) :
    ∀ c ∈ list, isBlank c = true := by
  induction list generalizing blanks with
  | nil => simp
  | cons d list ih =>
    rw [List.forall_mem_cons] at hlist ⊢
    have hd : isBlank d = true := by
      by_contra hd
      rw [List.append_assoc, List.dropWhile_append_of_pos hblanks, List.cons_append,
        List.dropWhile_cons_of_neg hd, List.takeWhile_cons_of_pos hlist.1] at hstop
      cases hstop
    refine ⟨hd, @ih (blanks ++ [d]) ?_ hlist.2 (by simpa using hstop)⟩
    simpa [or_imp, forall_and, hd] using hblanks

theorem takeWhile_ne_nil_of_mem_listings {w : Way} (h : w ∈ listings tail) :
    tail.takeWhile isBlank ≠ [] := by
  intro hnone
  rw [listings, behind_of_takeWhile_eq_nil hnone] at h
  cases h

/-- Such blanks name nothing. -/
theorem granted_of_mem_listings {w : Way} (h : w ∈ listings tail)
    (hstop : (tail.dropWhile isBlank).takeWhile isListChar = []) : granted w.group = {"*"} := by
  obtain ⟨blanks, list, hgroup, hblanks, hlist, rfl⟩ := exists_of_mem_listings h
  rw [hgroup]
  exact requested_of_blank (blank_of_given_back hblanks hlist hstop)

/-- The first way is the one by the longest runs, if there is one. -/
theorem head?_listings (hblanks : tail.takeWhile isBlank ≠ [])
    (hlist : (tail.dropWhile isBlank).takeWhile isListChar ≠ []) :
    (listings tail).head? = some ⟨some ((tail.dropWhile isBlank).takeWhile isListChar),
      (tail.dropWhile isBlank).dropWhile isListChar⟩ := by
  obtain ⟨more, hmore⟩ := behind_of_takeWhile_ne_nil hblanks
  obtain ⟨shorter, hshorter⟩ := behind_of_takeWhile_ne_nil hlist
  set body := tail.dropWhile isBlank
  have htake : body.take (body.length - (body.dropWhile isListChar).length) =
      body.takeWhile isListChar := by
    have hlength : body.length - (body.dropWhile isListChar).length =
        (body.takeWhile isListChar).length := by
      conv => lhs; arg 1; rw [← List.takeWhile_append_dropWhile (p := isListChar) (l := body)]
      rw [List.length_append, Nat.add_sub_cancel]
    rw [hlength, ← List.prefix_iff_eq_take.mp (List.takeWhile_prefix _)]
  rw [listings, hmore, List.flatMap_cons, hshorter, List.map_cons, List.cons_append,
    List.head?_cons, htake]

/-- **Stepping back never changes what is asked for**: the first way to match what may stand
behind a marker asks for what the longest runs ask for. -/
theorem exists_head?_ways (tail : List Char) :
    ∃ w, (ways listPattern tail).head? = some w ∧ granted w.group = (ofTail tail).entry := by
  rw [ways_listPattern, List.head?_append]
  by_cases hstop : tail.takeWhile isBlank = [] ∨
      (tail.dropWhile isBlank).takeWhile isListChar = []
  · rw [entry_ofTail_of_stop hstop]
    cases hw : (listings tail).head? with
    | none => exact ⟨⟨none, tail⟩, rfl, rfl⟩
    | some w =>
      have hmem := List.mem_of_mem_head? hw
      have hnolist := hstop.resolve_left (takeWhile_ne_nil_of_mem_listings hmem)
      exact ⟨w, rfl, granted_of_mem_listings hmem hnolist⟩
  · obtain ⟨hblanks, hlist⟩ := not_or.mp hstop
    rw [head?_listings hblanks hlist, entry_ofTail, if_neg hblanks]
    exact ⟨_, rfl, rfl⟩

/-- **A search for the pattern** finds what a line asks for. -/
theorem granted_of_search (line : List Char) :
    (search pattern line).map (fun w => granted w.group) = (directive? line).map entry := by
  have hhead : ∀ text, (ways pattern text).head? =
      (dropWord marker text).bind fun tail => (ways listPattern tail).head? := by
    intro text
    rw [pattern, ways_foldr_seq]
    cases dropWord marker text <;> rfl
  have hsearch : search pattern line =
      (afterMarker line).bind fun tail => (ways listPattern tail).head? := by
    induction line with
    | nil => exact hhead []
    | cons c line ih =>
      rw [search, hhead, afterMarker]
      cases dropWord marker (c :: line) with
      | none => exact ih
      | some tail =>
        obtain ⟨w, hw, -⟩ := exists_head?_ways tail
        simp [hw]
  rw [hsearch, directive?]
  cases afterMarker line with
  | none => rfl
  | some tail =>
    obtain ⟨w, hw, hgranted⟩ := exists_head?_ways tail
    simp [hw, hgranted]

/-- A search that steps back may remember a blank, which names nothing. -/
example : (pattern.search "snipguard:ignore  (".toList).map Way.group = some (some [' ']) := by
  decide +kernel

/-! ## The marker -/

/-- A line holds the marker, in any case, between two texts. -/
def Marked (line before tail : List Char) : Prop :=
  ∃ word, List.Forall₂ Caseless marker word ∧ line = before ++ word ++ tail

/-- A text stands behind the leftmost marker of a line. -/
def MarkedFirst (line tail : List Char) : Prop :=
  ∃ before, Marked line before tail ∧
    ∀ before' tail', Marked line before' tail' → before.length ≤ before'.length

theorem dropWord_eq_some_iff {signs text : List Char} (hsigns : ∀ sign ∈ signs, IsSign sign) :
    dropWord signs text = some tail ↔
      ∃ word, List.Forall₂ Caseless signs word ∧ text = word ++ tail := by
  induction signs generalizing text with
  | nil =>
    simp only [dropWord, Option.some.injEq, List.forall₂_nil_left_iff]
    exact ⟨fun h => ⟨[], rfl, h⟩, by rintro ⟨_, rfl, h⟩; exact h⟩
  | cons sign signs ih =>
    rw [List.forall_mem_cons] at hsigns
    cases text with
    | nil =>
      simp only [dropWord, reduceCtorEq, false_iff]
      rintro ⟨word, hword, h⟩
      rw [(List.append_eq_nil_iff.mp h.symm).1] at hword
      cases hword
    | cons c text =>
      rw [dropWord]
      constructor
      · intro h
        split at h
        · rename_i hc
          obtain ⟨word, hword, rfl⟩ := (ih hsigns.2).mp h
          exact ⟨c :: word, .cons ((isLetter_iff hsigns.1).mp hc) hword, rfl⟩
        · cases h
      · rintro ⟨_, _ | ⟨hc, hword⟩, h⟩
        obtain ⟨rfl, rfl⟩ := List.cons_eq_cons.mp h
        rw [if_pos ((isLetter_iff hsigns.1).mpr hc), ih hsigns.2]
        exact ⟨_, hword, rfl⟩

theorem marked_nil_iff : Marked line [] tail ↔ dropWord marker line = some tail :=
  (dropWord_eq_some_iff isSign_of_mem_marker).symm

theorem marked_cons_iff {c c' : Char} {before : List Char} :
    Marked (c :: line) (c' :: before) tail ↔ c = c' ∧ Marked line before tail := by
  constructor
  · rintro ⟨word, hword, h⟩
    obtain ⟨rfl, rfl⟩ := List.cons_eq_cons.mp h
    exact ⟨rfl, word, hword, rfl⟩
  · rintro ⟨rfl, word, hword, rfl⟩
    exact ⟨word, hword, rfl⟩

theorem not_marked_of_afterMarker (h : afterMarker line = none) :
    ∀ before tail, ¬ Marked line before tail := by
  induction line with
  | nil =>
    rintro before tail hmarked
    obtain rfl : before = [] := by
      obtain ⟨word, -, hnil⟩ := hmarked
      exact (List.append_eq_nil_iff.mp (List.append_eq_nil_iff.mp hnil.symm).1).1
    rw [marked_nil_iff, ← afterMarker, h] at hmarked
    cases hmarked
  | cons c line ih =>
    rw [afterMarker] at h
    cases hdrop : dropWord marker (c :: line) with
    | some tail => rw [hdrop] at h; cases h
    | none =>
      rw [hdrop] at h
      rintro (_ | ⟨c', before⟩) tail hmarked
      · rw [marked_nil_iff, hdrop] at hmarked
        cases hmarked
      · exact ih h before tail (marked_cons_iff.mp hmarked).2

/-- **What is taken to stand behind the marker** stands behind the leftmost one. -/
theorem markedFirst_of_afterMarker (h : afterMarker line = some tail) : MarkedFirst line tail := by
  induction line with
  | nil => exact ⟨[], marked_nil_iff.mpr h, fun _ _ _ => Nat.zero_le _⟩
  | cons c line ih =>
    rw [afterMarker] at h
    cases hdrop : dropWord marker (c :: line) with
    | some after =>
      rw [hdrop] at h
      exact ⟨[], marked_nil_iff.mpr (hdrop.trans h), fun _ _ _ => Nat.zero_le _⟩
    | none =>
      rw [hdrop] at h
      obtain ⟨before, hmarked, hfirst⟩ := ih h
      refine ⟨c :: before, marked_cons_iff.mpr ⟨rfl, hmarked⟩, ?_⟩
      rintro (_ | ⟨c', before'⟩) tail' hmarked'
      · rw [marked_nil_iff, hdrop] at hmarked'
        cases hmarked'
      · exact Nat.succ_le_succ (hfirst _ _ (marked_cons_iff.mp hmarked').2)

/-- **A line asks for something** if it holds the marker. -/
theorem exists_directive?_iff :
    (∃ d, directive? line = some d) ↔ ∃ before tail, Marked line before tail := by
  rw [directive?]
  cases hafter : afterMarker line with
  | none => simp [not_marked_of_afterMarker hafter]
  | some tail =>
    obtain ⟨before, hmarked, -⟩ := markedFirst_of_afterMarker hafter
    simp only [Option.map_some, Option.some.injEq, exists_eq', true_iff]
    exact ⟨before, tail, hmarked⟩

/-! ## The longest runs -/

/-- A text starts with a run of characters of a kind, and the run does not go on. -/
structure LongestRun (kind : Char → Prop) (text run rest : List Char) : Prop where
  split : text = run ++ rest
  all : ∀ c ∈ run, kind c
  stops : ∀ c ∈ rest.head?, ¬ kind c

theorem longestRun_iff {kind : Char → Prop} {p : Char → Bool} {text run rest : List Char}
    (hp : ∀ c, p c = true ↔ kind c) :
    LongestRun kind text run rest ↔ run = text.takeWhile p ∧ rest = text.dropWhile p := by
  constructor
  · rintro ⟨rfl, hall, hstops⟩
    have hrun : ∀ c ∈ run, p c = true := fun c hc => (hp c).mpr (hall c hc)
    rw [List.takeWhile_append_of_pos hrun, List.dropWhile_append_of_pos hrun]
    cases rest with
    | nil => simp
    | cons c rest =>
      have hc : ¬ p c = true := fun hc => hstops c rfl ((hp c).mp hc)
      simp [List.takeWhile_cons_of_neg hc, List.dropWhile_cons_of_neg hc]
  · rintro ⟨rfl, rfl⟩
    refine ⟨List.takeWhile_append_dropWhile.symm, fun c hc => (hp c).mp (List.mem_takeWhile_imp hc),
      fun c hc => ?_⟩
    have hstop := List.head?_dropWhile_not p text
    rw [Option.mem_def.mp hc] at hstop
    rw [← hp, hstop]
    exact Bool.false_ne_true

/-- A character that a list may be written with. -/
def Listable (c : Char) : Prop := ∃ sign ∈ listSigns, Caseless sign c

/-- **What the text behind a marker asks for**: all rules if no blank follows or no list follows the
blanks, and otherwise what the list asks for. -/
inductive Asks (tail : List Char) : Set String → Prop
  | bare {blanks rest : List Char} :
      LongestRun (isBlank · = true) tail blanks rest →
      (blanks = [] ∨ ∀ c ∈ rest.head?, ¬ Listable c) → Asks tail {"*"}
  | listing {blanks rest list behind : List Char} :
      LongestRun (isBlank · = true) tail blanks rest → blanks ≠ [] →
      LongestRun Listable rest list behind → list ≠ [] → Asks tail (requested list)

theorem takeWhile_isListChar_eq_nil_iff {rest : List Char} :
    rest.takeWhile isListChar = [] ↔ ∀ c ∈ rest.head?, ¬ Listable c := by
  cases rest with
  | nil => simp
  | cons c rest =>
    simp only [List.head?_cons, Option.mem_def, Option.some.injEq, forall_eq', Listable,
      ← isListChar_iff]
    by_cases hc : isListChar c = true
    · simp [hc]
    · simp [hc]

/-- **What is computed from the text behind a marker** is what it asks for, and nothing else. -/
theorem asks_iff {names : Set String} : Asks tail names ↔ names = (ofTail tail).entry := by
  have hblank {blanks rest : List Char} : LongestRun (isBlank · = true) tail blanks rest ↔
      blanks = tail.takeWhile isBlank ∧ rest = tail.dropWhile isBlank :=
    longestRun_iff fun _ => Iff.rfl
  have hlisted {rest list behind : List Char} : LongestRun Listable rest list behind ↔
      list = rest.takeWhile isListChar ∧ behind = rest.dropWhile isListChar :=
    longestRun_iff fun _ => isListChar_iff
  constructor
  · rintro (⟨hrun, hstop⟩ | ⟨hrun, hne, hlist, -⟩)
    · obtain ⟨rfl, rfl⟩ := hblank.mp hrun
      rw [← takeWhile_isListChar_eq_nil_iff] at hstop
      exact (entry_ofTail_of_stop hstop).symm
    · obtain ⟨rfl, rfl⟩ := hblank.mp hrun
      obtain ⟨rfl, -⟩ := hlisted.mp hlist
      rw [entry_ofTail, if_neg hne]
  · rintro rfl
    by_cases hstop : tail.takeWhile isBlank = [] ∨
        (tail.dropWhile isBlank).takeWhile isListChar = []
    · rw [entry_ofTail_of_stop hstop]
      rw [takeWhile_isListChar_eq_nil_iff] at hstop
      exact .bare (hblank.mpr ⟨rfl, rfl⟩) hstop
    · obtain ⟨hne, hlist⟩ := not_or.mp hstop
      rw [entry_ofTail, if_neg hne]
      exact .listing (hblank.mpr ⟨rfl, rfl⟩) hne (hlisted.mpr ⟨rfl, rfl⟩) hlist

/-! ## Stars -/

/-- No list names the star. -/
theorem not_token_star (hlist : ∀ c ∈ list, isListChar c = true) : ¬ Token list "*" := by
  rintro ⟨part, hpart, -, hstar⟩
  have hmem : '*' ∈ upper (strip part) := by
    have hchars : upper (strip part) = ['*'] := String.ofList_injective hstar.symm
    rw [hchars]
    exact List.mem_singleton_self _
  obtain ⟨c, hc, hstar⟩ := List.mem_flatMap.mp hmem
  exact star_not_mem_upperChar (hlist c (mem_of_mem_splitOn hpart (mem_of_mem_strip hc))) hstar

/-- **What a line is entered with**: the star alone, or the names of a list, which are no stars. -/
theorem ofTail_cases (tail : List Char) :
    ofTail tail = all ∨ ∃ rules, ofTail tail = only rules ∧ rules ≠ [] ∧ "*" ∉ rules := by
  rw [ofTail_eq]
  split
  · exact .inl rfl
  · set list := (tail.dropWhile isBlank).takeWhile isListChar
    cases hns : names list with
    | nil => exact .inl rfl
    | cons n ns =>
      refine .inr ⟨n :: ns, rfl, by simp, ?_⟩
      rw [← hns, mem_names_iff]
      exact not_token_star fun c hc => List.mem_takeWhile_imp hc

theorem nonempty_entry_ofTail (tail : List Char) : (ofTail tail).entry.Nonempty := by
  rcases ofTail_cases tail with h | ⟨rules, h, hne, -⟩ <;> rw [h]
  · exact ⟨"*", List.mem_singleton_self _⟩
  · obtain ⟨rule, more, rfl⟩ := List.exists_cons_of_ne_nil hne
    exact ⟨rule, mem_entry_only.mpr List.mem_cons_self⟩

theorem entry_ofTail_of_star (h : "*" ∈ (ofTail tail).entry) : (ofTail tail).entry = {"*"} := by
  rcases ofTail_cases tail with hall | ⟨rules, honly, -, hstar⟩
  · rw [hall, entry_all]
  · rw [honly, mem_entry_only] at h
    exact absurd h hstar

/-- A directive covers the rules that it is entered with, and a star covers all. -/
theorem covers_ofTail_iff {rule : String} :
    (ofTail tail).covers rule = true ↔ "*" ∈ (ofTail tail).entry ∨ rule ∈ (ofTail tail).entry := by
  rcases ofTail_cases tail with h | ⟨rules, h, -, hstar⟩ <;> rw [h]
  · simp [covers, entry_all]
  · simp [covers, mem_entry_only, hstar]

end Suppression

/-! ## Entries and findings -/

/-- Directives take findings away by the number of the line and by the rule. -/
theorem mem_findings_of_directives {s : TextSettings} {source kind path : String}
    {plain heeding : FileReport} {f : Finding}
    (hplain : (scanText { s with directives := false } (some source) kind path).1 = .ok plain)
    (hheeding : (scanText { s with directives := true } (some source) kind path).1 = .ok heeding) :
    f ∈ heeding.findings ↔ f ∈ plain.findings ∧
      ∀ n d, (n, d) ∈ Suppression.ofSource source → (n : Int) = f.place.line →
        d.covers f.rule = false := by
  rw [scanText_some] at hplain hheeding
  dsimp only at hplain hheeding
  cases hrun : Analysis.run s.parse s.nesting (some source) kind s.scheme
    (s.rules.allows syntaxRule) s.markup with
  | mk r notes =>
    cases r with
    | error fault => simp only [hrun] at hplain; cases hplain
    | ok a =>
      simp only [hrun, Except.ok.injEq] at hplain hheeding
      subst hplain hheeding
      simp only [List.mem_filter, TextSettings.keeps_iff, TextSettings.heeded, if_true,
        Bool.false_eq_true, if_false, List.not_mem_nil, false_implies, implies_true, and_true,
        and_assoc]

namespace Suppression

/-- **What directives enter.** A line has an entry exactly if it holds the marker, in any case, and
what stands behind the leftmost marker decides it: it is what the longest runs ask for, which is
also what a search for the pattern finds, however it steps back. An entry has names, and a star
stands alone. A scan that heeds directives loses the findings of the rules in the entry of their
line, or all of the line for a star, and no others. -/
theorem entry_of_line (source : String) (n : Nat) :
    ((∃ d, (n, d) ∈ ofSource source) ↔
      ∃ line before tail, (line, n) ∈ numberedLines source ∧ Marked line before tail) ∧
    ∀ d, (n, d) ∈ ofSource source → (∀ d', (n, d') ∈ ofSource source → d' = d) ∧
      (∃ line tail, (line, n) ∈ numberedLines source ∧ MarkedFirst line tail ∧
        (∀ names, Asks tail names ↔ names = d.entry) ∧
        (pattern.search line).map (fun w => granted w.group) = some d.entry) ∧
      d.entry.Nonempty ∧ ("*" ∈ d.entry → d.entry = {"*"}) ∧
      ∀ (s : TextSettings) (kind path : String) (plain heeding : FileReport),
        (scanText { s with directives := false } (some source) kind path).1 = .ok plain →
        (scanText { s with directives := true } (some source) kind path).1 = .ok heeding →
        ∀ f : Finding, f.place.line = n →
          (f ∈ heeding.findings ↔ f ∈ plain.findings ∧ "*" ∉ d.entry ∧ f.rule ∉ d.entry) := by
  refine ⟨?_, fun d hd => ?_⟩
  · simp only [mem_ofSource_iff]
    constructor
    · rintro ⟨d, line, hline, hd⟩
      obtain ⟨before, tail, hmarked⟩ := exists_directive?_iff.mp ⟨d, hd⟩
      exact ⟨line, before, tail, hline, hmarked⟩
    · rintro ⟨line, before, tail, hline, hmarked⟩
      obtain ⟨d, hd⟩ := exists_directive?_iff.mpr ⟨before, tail, hmarked⟩
      exact ⟨d, line, hline, hd⟩
  · obtain ⟨line, hline, hdirective⟩ := mem_ofSource_iff.mp hd
    have honly : ∀ d', (n, d') ∈ ofSource source → d' = d := by
      intro d' hd'
      obtain ⟨line', hline', hdirective'⟩ := mem_ofSource_iff.mp hd'
      rw [line_eq_of_mem_numberedLines hline' hline, hdirective] at hdirective'
      exact (Option.some.inj hdirective').symm
    obtain ⟨tail, hafter, rfl⟩ := Option.map_eq_some_iff.mp hdirective
    refine ⟨honly, ⟨line, tail, hline, markedFirst_of_afterMarker hafter, fun _ => asks_iff, ?_⟩,
      nonempty_entry_ofTail tail, entry_ofTail_of_star, ?_⟩
    · rw [granted_of_search, hdirective, Option.map_some]
    · intro s kind path plain heeding hplain hheeding f hf
      rw [mem_findings_of_directives hplain hheeding, ← not_or, ← covers_ofTail_iff,
        Bool.not_eq_true]
      refine and_congr_right fun _ => ⟨fun h => h n _ hd hf.symm, fun h m d' hd' hm => ?_⟩
      obtain rfl : m = n := by omega
      rw [honly d' hd', h]

/-- A line with a list that blanks, an empty part and a second marker surround. -/
def crowded : String := "let a = 1;\neval(a) // Snıpguard:IGNORE \t a-1,, b! snipguard:ignore\n"

theorem entry_of_crowded :
    (2, only ["A-1", "B"]) ∈ ofSource crowded ∧
      ∃ line tail, (line, 2) ∈ numberedLines crowded ∧ MarkedFirst line tail ∧
        (∀ names, Asks tail names ↔ names = (only ["A-1", "B"]).entry) ∧
        (pattern.search line).map (fun w => granted w.group) = some (only ["A-1", "B"]).entry := by
  have hmem : (2, only ["A-1", "B"]) ∈ ofSource crowded := by decide +kernel
  exact ⟨hmem, ((entry_of_line crowded 2).2 _ hmem).2.1⟩

end Suppression

end Advisor
