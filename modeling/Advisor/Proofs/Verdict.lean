import Advisor.Diagnosis
import Advisor.Proofs.TreeSearch

/-!
# The verdict on a parse tree

A text is refused if its tree is marked as holding an error, or for markup where that is not
allowed, and then for one reason only. `judge_ruling` says once which verdicts there are.
`verdict_of_tree` says which texts are refused, whatever tree the parser makes of them, and
`earliest_problem_reported` which of several problems is told: the one that stands first in the
text, and on a tie the error before the markup.
-/

namespace Advisor.Diagnosis

open Spot

variable {source : ByteArray} {tree : SyntaxTree} {markup : Bool}

/-! ## What there is to object to -/

/-- The error of a tree that is told. -/
def error? (tree : SyntaxTree) : Option Spot :=
  if tree.label.hasError then (root tree).firstError else none

/-- The markup of a tree that is told, unless markup is allowed. -/
def markup? (tree : SyntaxTree) (allowed : Bool) : Option Spot :=
  if allowed then none else (root tree).find? isMarkup

theorem isMarkup_iff {s : Spot} : isMarkup s = true ↔ "jsx_".toList <+: s.kind.toList :=
  List.isPrefixOf_iff_prefix

theorem hasError_of_error? {e : Spot} (h : error? tree = some e) : tree.label.hasError = true := by
  rw [error?] at h
  split at h
  · assumption
  · cases h

theorem within_error? {e : Spot} (h : error? tree = some e) : e.Within (root tree) := by
  rw [error?, if_pos (hasError_of_error? h)] at h
  exact within_firstError h

theorem markup?_eq_none_iff :
    markup? tree markup = none ↔
      (markup = false → ∀ d : Spot, d.Within (root tree) → ¬ "jsx_".toList <+: d.kind.toList) := by
  cases markup with
  | true => simp [markup?]
  | false =>
    simp only [markup?, Bool.false_eq_true, if_false, find?_eq_none_iff, forall_const,
      ← isMarkup_iff, Bool.not_eq_true]

theorem markup?_ne_none_iff :
    markup? tree markup ≠ none ↔
      markup = false ∧ ∃ d : Spot, d.Within (root tree) ∧ "jsx_".toList <+: d.kind.toList := by
  rw [ne_eq, markup?_eq_none_iff]
  push Not
  rfl

/-- **The verdicts there are.** Markup goes before an error only if it starts earlier, and a tree
that is marked without an error to show is refused as a whole. -/
inductive Ruling (source : ByteArray) (tree : SyntaxTree) (markup : Bool) : Validation → Prop
  | markup {m : Spot} : markup? tree markup = some m →
      (∀ e, error? tree = some e → m.label.startByte < e.label.startByte) →
      Ruling source tree markup (rejected source m.label (.unexpected "<"))
  | error {e : Spot} : error? tree = some e →
      (∀ m, markup? tree markup = some m → e.label.startByte ≤ m.label.startByte) →
      Ruling source tree markup
        (rejected source (position e).label (problem e (root tree) source))
  | unplaced : tree.label.hasError = true → error? tree = none → markup? tree markup = none →
      Ruling source tree markup (rejected source tree.label (.unexpected ""))
  | accepted : tree.label.hasError = false → markup? tree markup = none →
      Ruling source tree markup .accepted

theorem judge_ruling (source : ByteArray) (tree : SyntaxTree) (markup : Bool) :
    Ruling source tree markup (judge source tree markup) := by
  rw [judge, ← markup?, ← error?]
  cases hm : markup? tree markup with
  | none =>
    cases he : error? tree with
    | none =>
      cases h : tree.label.hasError with
      | true => exact .unplaced h he hm
      | false => exact .accepted h hm
    | some e => exact .error he (by simp [hm])
  | some m =>
    cases he : error? tree with
    | none => exact .markup hm (by simp [he])
    | some e =>
      dsimp only
      split
      · rename_i hlt
        exact .markup hm (by simpa [he] using hlt)
      · rename_i hle
        exact .error he (by simpa [hm] using hle)

/-! ## Which texts are refused -/

/-- A verdict refuses a text for one reason, or accepts it without any. -/
theorem Ruling.length_errors {v : Validation} (h : Ruling source tree markup v) :
    v.errors.length = if v.valid then 0 else 1 := by
  cases h <;> rfl

/-- A text is refused exactly if its tree is marked or there is markup to object to. -/
theorem Ruling.valid_eq_false_iff {v : Validation} (h : Ruling source tree markup v) :
    v.valid = false ↔ tree.label.hasError = true ∨ markup? tree markup ≠ none := by
  cases h with
  | markup hm _ => simp [hm, rejected]
  | error he _ => simp [hasError_of_error? he, rejected]
  | unplaced hmark _ _ => simp [hmark, rejected]
  | accepted hmark hm => simp [hmark, hm, Validation.accepted]

/-- Whether markup is allowed counts only through the markup that is told. -/
theorem judge_congr {allowed : Bool} (h : markup? tree markup = markup? tree allowed) :
    judge source tree markup = judge source tree allowed := by
  rw [judge, judge, ← markup?, ← markup?, h]

theorem validate_of_ne_empty {code : String} (h : code ≠ "") (parse : String → SyntaxTree)
    (markup : Bool) : validate parse code markup = judge code.toUTF8 (parse code) markup := by
  rw [validate, if_neg (by simpa using h)]

/-- **Which texts are refused**, whatever tree the parser makes of them: those whose tree is marked
as holding an error, and where markup is not allowed, those with markup at any depth. There is one
diagnostic then, and none otherwise. Without markup it makes no difference whether it is allowed,
and allowing it never turns an accepted text into a refused one. -/
theorem verdict_of_tree (parse : String → SyntaxTree) {code : String} (hcode : code ≠ "") :
    (∀ markup, (validate parse code markup).valid = false ↔
      (parse code).label.hasError = true ∨
        (markup = false ∧
          ∃ d : Spot, d.Within (root (parse code)) ∧ "jsx_".toList <+: d.kind.toList)) ∧
    (∀ markup, (validate parse code markup).errors.length =
      if (validate parse code markup).valid then 0 else 1) ∧
    ((∀ d : Spot, d.Within (root (parse code)) → ¬ "jsx_".toList <+: d.kind.toList) →
      validate parse code true = validate parse code false) ∧
    ((validate parse code false).valid = true → (validate parse code true).valid = true) := by
  have hruling (markup : Bool) := judge_ruling code.toUTF8 (parse code) markup
  simp only [validate_of_ne_empty hcode]
  have hvalid (markup : Bool) := (hruling markup).valid_eq_false_iff
  simp only [markup?_ne_none_iff] at hvalid
  refine ⟨hvalid, fun markup => (hruling markup).length_errors, fun hnone => ?_, fun h => ?_⟩
  · refine judge_congr ?_
    rw [markup?_eq_none_iff.mpr fun _ => hnone, markup?_eq_none_iff.mpr fun _ => hnone]
  · -- what speaks against the text with markup allowed does so without
    by_contra hfalse
    rw [Bool.not_eq_true, hvalid] at hfalse
    rcases hfalse with hmark | ⟨hallowed, -⟩
    · rw [(hvalid false).mpr (.inl hmark)] at h
      cases h
    · cases hallowed

/-- Markup without anything in it. -/
def emptyMarkup : SyntaxTree := .node ⟨"jsx_self_closing_element", 0, 4, 0, 0, false, false⟩ []

/-- A tree without errors that has markup two levels down. -/
def deepMarkup : SyntaxTree :=
  .node ⟨"program", 0, 4, 0, 0, false, false⟩
    [.node ⟨"expression_statement", 0, 4, 0, 0, false, false⟩ [emptyMarkup]]

/-- It is refused, unless markup is allowed. -/
theorem verdict_of_deepMarkup :
    "<a/>" ≠ "" ∧ (validate (fun _ => deepMarkup) "<a/>" false).valid = false ∧
      (validate (fun _ => deepMarkup) "<a/>" true).valid = true := by
  have hcode : "<a/>" ≠ "" := by decide
  have hwithin : Within ⟨emptyMarkup, ["expression_statement", "program"]⟩ (root deepMarkup) :=
    .deeper List.mem_cons_self (.deeper List.mem_cons_self .here)
  obtain ⟨hvalid, -⟩ := verdict_of_tree (fun _ => deepMarkup) hcode
  refine ⟨hcode, (hvalid false).mpr (.inr ⟨rfl, _, hwithin, by decide⟩), ?_⟩
  rw [← Bool.not_eq_false, hvalid true]
  rintro (hmark | ⟨hallowed, -⟩)
  · cases hmark
  · cases hallowed

/-! ## Which problem is told -/

/-- Some markup starts before every error. -/
def MarkupFirst (s : Spot) : Prop :=
  ∃ m : Spot, m.Within s ∧ isMarkup m = true ∧
    ∀ e : Spot, e.Within s → e.isError = true → m.label.startByte < e.label.startByte

/-- Where the marks are right, the error that is told is the one that is found. -/
theorem error?_of_wellFormed (h : (root tree).WellFormed) :
    error? tree = (root tree).firstError := by
  cases hmark : tree.label.hasError with
  | true => rw [error?, if_pos hmark]
  | false =>
    rw [error?, if_neg (by simp [hmark]), (firstError_eq_none_iff h).mpr hmark]

/-- Markup comes first if the first markup starts before the first error. -/
theorem markupFirst_iff (h : (root tree).WellFormed) :
    MarkupFirst (root tree) ↔ ∃ m, markup? tree false = some m ∧
      ∀ e, error? tree = some e → m.label.startByte < e.label.startByte := by
  have hmarkup := earliest_find? h isMarkup
  have herror := earliest_firstError h
  rw [error?_of_wellFormed h]
  constructor
  · rintro ⟨d, hd, hdm, hlt⟩
    cases hm : (root tree).find? isMarkup with
    | none =>
      rw [hm] at hmarkup
      rw [hmarkup d hd] at hdm
      cases hdm
    | some m =>
      rw [hm] at hmarkup
      refine ⟨m, hm, fun e he => ?_⟩
      rw [he] at herror
      exact (hmarkup.2.2 d hd hdm).trans_lt (hlt e herror.1 herror.2.1)
  · rintro ⟨m, hm, hlt⟩
    replace hm : (root tree).find? isMarkup = some m := hm
    rw [hm] at hmarkup
    refine ⟨m, hmarkup.1, hmarkup.2.1, fun d hd hde => ?_⟩
    cases he : (root tree).firstError with
    | none =>
      rw [he] at herror
      rw [herror d hd] at hde
      cases hde
    | some e =>
      rw [he] at herror
      exact (hlt e he).trans_le (herror.2.2 d hd hde)

/-- **Only the first problem is told.** -/
theorem Ruling.of_wellFormed {v : Validation} (hv : Ruling source tree false v)
    (h : (root tree).WellFormed) :
    (MarkupFirst (root tree) → ∃ m, (root tree).find? isMarkup = some m ∧
      v = rejected source m.label (.unexpected "<")) ∧
    (¬ MarkupFirst (root tree) →
      (∃ e, (root tree).firstError = some e ∧
        v = rejected source (position e).label (problem e (root tree) source)) ∨
      ((root tree).firstError = none ∧ (root tree).find? isMarkup = none ∧ v = .accepted)) := by
  rw [markupFirst_iff h, ← error?_of_wellFormed h]
  cases hv with
  | @markup m hm hlt => exact ⟨fun _ => ⟨m, hm, rfl⟩, fun hno => absurd ⟨m, hm, hlt⟩ hno⟩
  | @error e he hle =>
    refine ⟨?_, fun _ => .inl ⟨e, he, rfl⟩⟩
    rintro ⟨m, hm, hlt⟩
    exact absurd (hlt e he) (not_lt.mpr (hle m hm))
  | unplaced hmark he _ =>
    rw [error?_of_wellFormed h, firstError_eq_none_iff h, label, root, hmark] at he
    cases he
  | accepted hmark hm =>
    have he : error? tree = none := by rw [error?, if_neg (by simp [hmark])]
    refine ⟨?_, fun _ => .inr ⟨he, hm, rfl⟩⟩
    rintro ⟨m, hm', -⟩
    rw [hm] at hm'
    cases hm'

/-- **Only the first problem is told.** In a well-formed tree the error that is found starts first
among all errors, and the markup that is found among all markup. Where markup is not allowed, it is
told exactly if it starts before every error; otherwise the error is, if there is one. In any tree,
the error that is found is one of the topmost errors, of those that start first the last. -/
theorem earliest_problem_reported (parse : String → SyntaxTree) (code : String) :
    let tree := root (parse code)
    (tree.WellFormed →
      Earliest isError tree tree.firstError ∧
      Earliest isMarkup tree (tree.find? isMarkup) ∧
      (code ≠ "" →
        (MarkupFirst tree → ∃ m, tree.find? isMarkup = some m ∧
          validate parse code false = rejected code.toUTF8 m.label (.unexpected "<")) ∧
        (¬ MarkupFirst tree →
          (∃ e, tree.firstError = some e ∧ validate parse code false =
            rejected code.toUTF8 (position e).label (problem e tree code.toUTF8)) ∨
          (tree.firstError = none ∧ tree.find? isMarkup = none ∧
            validate parse code false = .accepted)))) ∧
    tree.topErrors.Sublist tree.preorder ∧
    ((tree.topErrors = [] ∧ tree.firstError = none) ∨
      ∃ e, tree.firstError = some e ∧ LastEarliest tree.topErrors e) := by
  intro tree
  refine ⟨fun h => ⟨earliest_firstError h, earliest_find? h isMarkup, fun hcode => ?_⟩,
    topErrors_sublist_preorder tree, firstError_cases tree⟩
  rw [validate_of_ne_empty hcode]
  exact (judge_ruling code.toUTF8 (parse code) false).of_wellFormed h

/-- Markup, and behind it two errors that start together, the first of them of no width. -/
def markupThenErrors : SyntaxTree :=
  .node ⟨"program", 0, 6, 0, 0, false, true⟩
    [emptyMarkup, .node ⟨";", 4, 4, 0, 4, true, true⟩ [],
      .node ⟨"ERROR", 4, 6, 0, 4, false, true⟩ []]

theorem wellFormed_markupThenErrors : (root markupThenErrors).WellFormed := by
  have hchildren : (root markupThenErrors).children =
      [⟨emptyMarkup, ["program"]⟩, ⟨.node ⟨";", 4, 4, 0, 4, true, true⟩ [], ["program"]⟩,
        ⟨.node ⟨"ERROR", 4, 6, 0, 4, false, true⟩ [], ["program"]⟩] := rfl
  refine .of_children (by decide) ?_ ?_ ?_ ?_
  · rw [hchildren]; decide
  · rw [hchildren]; decide
  · rw [hchildren]; decide
  · rw [hchildren]
    simp only [List.forall_mem_cons]
    exact ⟨.leaf (by decide) (by decide) _, .leaf (by decide) (by decide) _,
      .leaf (by decide) (by decide) _, by simp⟩

/-- The markup is told, and of the two errors the second would be. -/
theorem earliest_problem_of_markupThenErrors :
    (root markupThenErrors).WellFormed ∧
      validate (fun _ => markupThenErrors) "<a/>);" false =
        rejected "<a/>);".toUTF8 emptyMarkup.label (.unexpected "<") ∧
      (root markupThenErrors).firstError =
        some ⟨.node ⟨"ERROR", 4, 6, 0, 4, false, true⟩ [], ["program"]⟩ := by
  obtain ⟨hwell, -⟩ := earliest_problem_reported (fun _ => markupThenErrors) "<a/>);"
  obtain ⟨-, -, htold⟩ := hwell wellFormed_markupThenErrors
  have hnodes : (root markupThenErrors).preorder = [root markupThenErrors,
      ⟨emptyMarkup, ["program"]⟩, ⟨.node ⟨";", 4, 4, 0, 4, true, true⟩ [], ["program"]⟩,
      ⟨.node ⟨"ERROR", 4, 6, 0, 4, false, true⟩ [], ["program"]⟩] := by cbv
  have hfound : (root markupThenErrors).find? isMarkup = some ⟨emptyMarkup, ["program"]⟩ := by
    rw [find?_eq, hnodes]
    rfl
  have hfirst : MarkupFirst (root markupThenErrors) := by
    obtain ⟨hwithin, hmarkup⟩ := within_of_find?_eq_some hfound
    refine ⟨_, hwithin, hmarkup, fun e he herr => ?_⟩
    rw [← mem_preorder_iff, hnodes] at he
    simp only [List.mem_cons, List.not_mem_nil, or_false] at he
    rcases he with rfl | rfl | rfl | rfl
    · cases herr
    · cases herr
    · decide
    · decide
  obtain ⟨m, hm, htext⟩ := (htold (by decide)).1 hfirst
  rw [hfound] at hm
  cases hm
  exact ⟨wellFormed_markupThenErrors, htext, by cbv⟩

end Advisor.Diagnosis
