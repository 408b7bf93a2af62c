import Advisor.Proofs.TextScan
import Mathlib

/-!
# Code is read one line at a time

Two passes number the lines of a text for themselves: the search for weaknesses and the collection
of directives. `numberedLines_append` says what a line feed between two texts does to the numbers,
and `codeFindings_append` that the two passes stay in step: the findings in both texts together are
those in each of them, the second ones further down. So neither a finding nor a directive reaches
across a line feed.
-/

namespace Advisor

/-! ## The lines of two texts -/

namespace Text

/-- A separator between two texts keeps their pieces apart. -/
theorem splitOn_append_cons (sep : Char) (xs ys : List Char) :
    splitOn sep (xs ++ sep :: ys) = splitOn sep xs ++ splitOn sep ys := by
  induction xs with
  | nil => simp [splitOn_cons]
  | cons c rest ih =>
    obtain ⟨piece, pieces, hrest⟩ := List.exists_cons_of_ne_nil (splitOn_ne_nil sep rest)
    rw [List.cons_append, splitOn_cons, ih, splitOn_cons]
    split
    · rfl
    · rw [hrest]
      rfl

end Text

/-- How many lines a text takes up together with the line feed behind it. -/
def linesThrough (a : String) : Nat := 1 + a.toList.count '\n'

/-- **The lines of two texts with a line feed between them** are those of each, and the second ones
are numbered on from the first. -/
theorem numberedLines_append (a b : String) :
    numberedLines (a ++ "\n" ++ b) =
      numberedLines a ++ (numberedLines b).map fun x => (x.1, x.2 + linesThrough a) := by
  have htext : (a ++ "\n" ++ b).toList = a.toList ++ '\n' :: b.toList := by
    simp [String.toList_append]
  have hlength : (Text.splitOn '\n' a.toList).length = linesThrough a := by
    rw [Text.length_splitOn, linesThrough, Nat.add_comm]
  have hnumbers : ((Text.splitOn '\n' b.toList).zipIdx 1).map
      (Prod.map id fun n => n + linesThrough a) =
        (Text.splitOn '\n' b.toList).zipIdx (linesThrough a + 1) :=
    List.map_snd_add_zipIdx_eq_zipIdx
  simp only [← zipIdx_splitOn_eq]
  rw [htext, Text.splitOn_append_cons, List.zipIdx_append, hlength, Nat.add_comm 1, ← hnumbers]
  rfl

/-! ## Findings and directives -/

/-- A finding as many lines further down. -/
def Finding.lowered (lines : Nat) (f : Finding) : Finding :=
  { f with place := ⟨f.place.line + lines, f.place.column⟩ }

/-- What a rule reports in a line depends on the number of the line in nothing but the place. -/
theorem Weakness.report_add (r : WeaknessRule) (n lines : Nat) :
    report r (n + lines) = (report r n).lowered lines := by
  simp [report, Finding.lowered]

/-- **A pass that chooses rules line by line** finds in two texts what it finds in each of them. -/
theorem flatMap_report_append (chosen : List Char → List WeaknessRule) (a b : String) :
    ((numberedLines (a ++ "\n" ++ b)).flatMap fun x => (chosen x.1).map (Weakness.report · x.2)) =
      ((numberedLines a).flatMap fun x => (chosen x.1).map (Weakness.report · x.2)) ++
        ((numberedLines b).flatMap fun x => (chosen x.1).map (Weakness.report · x.2)).map
          (Finding.lowered (linesThrough a)) := by
  rw [numberedLines_append, List.flatMap_append, List.flatMap_map, List.map_flatMap]
  congr 1
  refine List.flatMap_congr fun x _ => ?_
  rw [List.map_map]
  exact List.map_congr_left fun r _ => Weakness.report_add r x.2 (linesThrough a)

/-- The search for weaknesses is such a pass, with any list of rules and any test of a line. -/
theorem Weakness.findingsBy_append (found : WeaknessRule → List Char → Bool)
    (rules : List WeaknessRule) (a b : String) :
    findingsBy found rules (a ++ "\n" ++ b) =
      findingsBy found rules a ++
        (findingsBy found rules b).map (Finding.lowered (linesThrough a)) := by
  simp only [findingsBy, zipIdx_splitOn_eq]
  exact flatMap_report_append (fun line => rules.filter (found · line)) a b

/-- And so is what the filter and the directives leave of it: a directive silences by the number of
its line, which moves together with the findings. -/
theorem TextSettings.codeFindings_append (s : TextSettings) (a b : String) :
    s.codeFindings (a ++ "\n" ++ b) =
      s.codeFindings a ++ (s.codeFindings b).map (Finding.lowered (linesThrough a)) :=
  flatMap_report_append (fun line => Weakness.rules.filter fun r => s.Reports line r) a b

/-- The directives of two texts are those of each, by the numbers of their lines. -/
theorem Suppression.ofSource_append (a b : String) :
    ofSource (a ++ "\n" ++ b) =
      ofSource a ++ (ofSource b).map fun x => (x.1 + linesThrough a, x.2) := by
  simp only [ofSource, zipIdx_splitOn_eq, numberedLines_append, List.filterMap_append,
    List.filterMap_map, List.map_filterMap]
  congr 1
  refine List.filterMap_congr fun x _ => ?_
  rw [Function.comp_apply, Option.map_map]
  rfl

/-- The report on code has the findings that are left, whatever the text. -/
theorem exists_scanText_code (s : TextSettings) (source path : String) :
    ∃ x, (scanText s (some source) "code" path).1 = .ok x ∧ x.findings = s.codeFindings source := by
  rw [scanText_some, Analysis.run, if_pos rfl]
  exact ⟨_, rfl, s.filter_keeps_weaknesses source⟩

/-- **Code is read one line at a time.** With a line feed between two texts, the scan reports what
it reports in the first and then what it reports in the second, with every line number higher by the
lines of the first. The same holds for the search with any list of rules, by their patterns or by
any other test of a line, and for the directives. -/
theorem scanText_append_line (s : TextSettings) (a b path : String) (rules : List WeaknessRule)
    (found : WeaknessRule → List Char → Bool) :
    (∃ x y both, (scanText s (some a) "code" path).1 = .ok x ∧
      (scanText s (some b) "code" path).1 = .ok y ∧
      (scanText s (some (a ++ "\n" ++ b)) "code" path).1 = .ok both ∧
      both.findings = x.findings ++ y.findings.map (Finding.lowered (1 + a.toList.count '\n'))) ∧
    Weakness.findings rules (a ++ "\n" ++ b) = Weakness.findings rules a ++
      (Weakness.findings rules b).map (Finding.lowered (1 + a.toList.count '\n')) ∧
    Weakness.findingsBy found rules (a ++ "\n" ++ b) = Weakness.findingsBy found rules a ++
      (Weakness.findingsBy found rules b).map (Finding.lowered (1 + a.toList.count '\n')) ∧
    Suppression.ofSource (a ++ "\n" ++ b) = Suppression.ofSource a ++
      (Suppression.ofSource b).map fun x => (x.1 + (1 + a.toList.count '\n'), x.2) := by
  obtain ⟨x, hx, hxf⟩ := exists_scanText_code s a path
  obtain ⟨y, hy, hyf⟩ := exists_scanText_code s b path
  obtain ⟨both, hboth, hbothf⟩ := exists_scanText_code s (a ++ "\n" ++ b) path
  refine ⟨⟨x, y, both, hx, hy, hboth, ?_⟩, Weakness.findingsBy_append _ rules a b,
    Weakness.findingsBy_append found rules a b, Suppression.ofSource_append a b⟩
  rw [hbothf, hxf, hyf]
  exact s.codeFindings_append a b

end Advisor
