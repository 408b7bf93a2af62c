import Advisor.Proofs.QuotedToken
import Mathlib

/-!
# From bytes to characters

The nodes of a tree are placed by bytes, and a diagnostic by lines and characters. `placeAt` is the
place of a character, counted in characters alone. `place_of_start` says that the way through the
bytes leads there: a diagnostic at a node that starts at a character has the place of that
character, whatever characters of one to four bytes stand in front of it. No two characters have
the same place (`eq_of_placeAt_eq`), so nothing is lost.
-/

namespace Advisor

namespace Text

/-! ## Behind the last line feed -/

/-- What stands in a text behind its last line feed. -/
def lastLine (cs : List Char) : List Char := cs.rtakeWhile (· ≠ '\n')

theorem lineFeed_not_mem_lastLine (cs : List Char) : '\n' ∉ lastLine cs := by
  intro hmem
  have hne := List.mem_rtakeWhile_imp hmem
  simp at hne

/-- The lines in front of the last one end with a line feed. -/
theorem exists_lines (cs : List Char) :
    ∃ lines, lines ++ lastLine cs = cs ∧ (lines = [] ∨ lines.getLast? = some '\n') := by
  refine ⟨cs.rdropWhile (· ≠ '\n'), List.rdropWhile_append_rtakeWhile, ?_⟩
  by_cases hnil : cs.rdropWhile (· ≠ '\n') = []
  · exact .inl hnil
  · right
    have hlast := List.rdropWhile_last_not (· ≠ '\n') cs hnil
    rw [List.getLast?_eq_some_getLast hnil]
    simpa using hlast

/-- Without a line feed, what is added to a text is added to its last line. -/
theorem lastLine_append {more : List Char} (cs : List Char) (h : '\n' ∉ more) :
    lastLine (cs ++ more) = lastLine cs ++ more := by
  have hkeep : ∀ c ∈ more.reverse, decide (c ≠ '\n') = true := by
    intro c hc
    exact decide_eq_true (ne_of_mem_of_not_mem (List.mem_reverse.mp hc) h)
  rw [lastLine, lastLine, List.rtakeWhile, List.rtakeWhile, List.reverse_append,
    List.takeWhile_append_of_pos hkeep, List.reverse_append, List.reverse_reverse]

end Text

open Text

/-! ## The places of characters -/

/-- The place of a character of a text, or of its end: lines and characters are counted, not
bytes. -/
def placeAt (code : String) (i : Nat) : Place :=
  ⟨(code.toList.take i).count '\n' + 1, (lastLine (code.toList.take i)).length⟩

/-- **A place lies in its line**, or at its end. -/
theorem exists_line_of_placeAt (code : String) (i : Nat) :
    ∃ line, (line, (code.toList.take i).count '\n' + 1) ∈ numberedLines code ∧
      (lastLine (code.toList.take i)).length ≤ line.length := by
  obtain ⟨lines, hsplit, hlines⟩ := exists_lines (code.toList.take i)
  have hlast := lineFeed_not_mem_lastLine (code.toList.take i)
  have hcode : code.toList = lines ++ lastLine (code.toList.take i) ++ code.toList.drop i := by
    rw [hsplit, List.take_append_drop]
  have hcount : (code.toList.take i).count '\n' = lines.count '\n' := by
    conv_lhs => rw [← hsplit]
    rw [List.count_append, List.count_eq_zero_of_not_mem hlast, Nat.add_zero]
  refine ⟨_, hcount ▸ mem_numberedLines_of_append hcode hlines hlast, ?_⟩
  rw [List.length_append]
  omega

/-- A later character has another place: it stands in a later line or in a later column. -/
theorem placeAt_ne_of_lt {code : String} {i j : Nat} (hij : i < j) (hj : j ≤ code.length) :
    placeAt code i ≠ placeAt code j := by
  intro heq
  have hlength : code.toList.length = code.length := String.length_toList
  obtain ⟨between, hbetween⟩ : code.toList.take i <+: code.toList.take j :=
    List.take_prefix_take_left hij.le
  have hsome : 0 < between.length := by
    have hsizes := congrArg List.length hbetween
    rw [List.length_append, List.length_take, List.length_take] at hsizes
    omega
  rw [placeAt, placeAt, Place.mk.injEq, ← hbetween, List.count_append] at heq
  -- no line feed stands between the two, so what does makes the column greater
  have hfeed : '\n' ∉ between := by
    rw [← List.count_eq_zero]
    omega
  rw [lastLine_append _ hfeed, List.length_append] at heq
  omega

/-- **A place determines the character.** -/
theorem eq_of_placeAt_eq {code : String} {i j : Nat} (hi : i ≤ code.length) (hj : j ≤ code.length)
    (h : placeAt code i = placeAt code j) : i = j := by
  rcases Nat.lt_trichotomy i j with hlt | heq | hgt
  · exact absurd h (placeAt_ne_of_lt hlt hj)
  · exact heq
  · exact absurd h.symm (placeAt_ne_of_lt hgt hi)

namespace Diagnosis

open Spot

/-! ## The node that is reported -/

/-- A node starts at a character of a text: its first byte, row and byte column are those of the
text in front of the character. -/
structure StartsAt (code : String) (i : Nat) (l : NodeLabel) : Prop where
  startByte : l.startByte = byteSize (code.toList.take i)
  row : l.row = (code.toList.take i).count '\n'
  byteColumn : l.byteColumn = byteSize (lastLine (code.toList.take i))

/-- The node that a verdict points at. -/
def reported? (tree : SyntaxTree) (markup : Bool) : Option Spot :=
  match markup? tree markup, error? tree with
  | some m, some e => some (if m.label.startByte < e.label.startByte then m else position e)
  | some m, none => some m
  | none, some e => some (position e)
  | none, none => if tree.label.hasError then some (root tree) else none

/-- A text is refused exactly if there is a node to report, and then at that node. -/
theorem judge_cases (source : ByteArray) (tree : SyntaxTree) (markup : Bool) :
    (reported? tree markup = none ∧ judge source tree markup = .accepted) ∨
      ∃ s p, reported? tree markup = some s ∧
        judge source tree markup = rejected source s.label p := by
  have hruling := judge_ruling source tree markup
  generalize judge source tree markup = v at hruling ⊢
  cases hruling with
  | @markup m hm hbefore =>
    refine .inr ⟨m, _, ?_, rfl⟩
    cases he : error? tree with
    | none => simp only [reported?, hm, he]
    | some e => simp only [reported?, hm, he, if_pos (hbefore e he)]
  | @error e he hfirst =>
    refine .inr ⟨position e, _, ?_, rfl⟩
    cases hm : markup? tree markup with
    | none => simp only [reported?, hm, he]
    | some m => simp only [reported?, hm, he, if_neg (Nat.not_lt.mpr (hfirst m hm))]
  | unplaced hmark he hm =>
    exact .inr ⟨root tree, _, by simp only [reported?, hm, he, if_pos hmark], rfl⟩
  | accepted hmark hm =>
    have he : error? tree = none := by simp only [error?, hmark, Bool.false_eq_true, if_false]
    exact .inl ⟨by simp only [reported?, hm, he, hmark, Bool.false_eq_true, if_false], rfl⟩

/-- **The place of a refusal** at a node that starts at a character is that of the character. -/
theorem rejected_of_startsAt {code : String} {i : Nat} {l : NodeLabel} (h : StartsAt code i l)
    (p : Problem) :
    ∃ d, (rejected code.toUTF8 l p).errors = [d] ∧ d.place = placeAt code i := by
  obtain ⟨lines, hsplit, -⟩ := exists_lines (code.toList.take i)
  have hbegin : lines ++ lastLine (code.toList.take i) <+: code.toList :=
    hsplit.symm ▸ List.take_prefix i code.toList
  have hstart : l.startByte = byteSize (lines ++ lastLine (code.toList.take i)) :=
    hsplit.symm ▸ h.startByte
  refine ⟨_, rfl, ?_⟩
  rw [length_decode_column hbegin hstart h.byteColumn, h.row, placeAt]

/-- **Bytes become characters.** If the node that is reported starts at a character of the text, then
there is one diagnostic, its line is the row of the node counted from 1, and its column is the
number of characters between the last line feed and the node. The column does not go beyond the end
of that line, and no other character has the same line and column. -/
theorem place_of_start {parse : String → SyntaxTree} {code : String} {markup : Bool} {s : Spot}
    {i : Nat} (hcode : code ≠ "") (hreported : reported? (parse code) markup = some s)
    (hi : i ≤ code.length) (hstart : StartsAt code i s.label) :
    ∃ (d : Diagnostic) (column : Nat), (validate parse code markup).errors = [d] ∧
      d.place = ⟨s.label.row + 1, column⟩ ∧
      column = (lastLine (code.toList.take i)).length ∧
      (∃ line, (line, s.label.row + 1) ∈ numberedLines code ∧ column ≤ line.length) ∧
      ∀ j ≤ code.length, placeAt code j = d.place → j = i := by
  obtain ⟨p, hjudge⟩ : ∃ p, judge code.toUTF8 (parse code) markup =
      rejected code.toUTF8 s.label p := by
    rcases judge_cases code.toUTF8 (parse code) markup with ⟨hnone, -⟩ | ⟨s', p, hs, hp⟩
    · rw [hreported] at hnone
      cases hnone
    · rw [hreported] at hs
      cases hs
      exact ⟨p, hp⟩
  obtain ⟨d, hd, hplace⟩ := rejected_of_startsAt hstart p
  refine ⟨d, _, by rw [validate_of_ne_empty hcode, hjudge, hd], ?_, rfl, ?_, ?_⟩
  · rw [hplace, hstart.row, placeAt]
  · rw [hstart.row]
    exact exists_line_of_placeAt code i
  · intro j hj heq
    exact eq_of_placeAt_eq hj hi (heq.trans hplace)

/-- A text with characters of one to four bytes in front of the semicolon in its second line. -/
def manyWidths : String := "aé\n€😀 ;"

/-- The tree of a parser that stumbles at the semicolon. -/
def manyWidthsTree : SyntaxTree :=
  .node ⟨"program", 0, 13, 0, 0, false, true⟩ [.node ⟨"ERROR", 12, 13, 1, 8, false, true⟩ []]

/-- The semicolon is the seventh character. Eight bytes of its line stand in front of it, and three
characters. -/
theorem place_of_start_manyWidths :
    (∃ d, (validate (fun _ => manyWidthsTree) manyWidths true).errors = [d] ∧
      d.place = ⟨2, 3⟩) ∧
    ∀ j ≤ manyWidths.length, placeAt manyWidths j = ⟨2, 3⟩ → j = 6 := by
  have hreported : reported? manyWidthsTree true =
      some ⟨.node ⟨"ERROR", 12, 13, 1, 8, false, true⟩ [], ["program"]⟩ := by cbv
  have hstart : StartsAt manyWidths 6 ⟨"ERROR", 12, 13, 1, 8, false, true⟩ :=
    ⟨by decide, by decide, by decide⟩
  obtain ⟨d, column, hd, hplace, hcolumn, -, honly⟩ := @place_of_start (fun _ => manyWidthsTree)
    manyWidths true _ 6 (by decide) hreported (by decide) hstart
  have hthree : column = 3 := by
    rw [hcolumn]
    decide
  rw [hthree] at hplace
  refine ⟨⟨d, hd, hplace⟩, fun j hj hj' => honly j hj ?_⟩
  rw [hj', hplace]
  rfl

end Diagnosis

end Advisor
