import Advisor.Proofs.Verdict
import Mathlib

/-!
# Where an error is reported

From an error node the search for the token at which the parser stumbled goes on to an error inside
it, as long as there is one. One step may go to a child or, through the search for the earliest
error, to a node any number of levels below. `inner?` is one step and `stumbledAt` what is taken
where there is none; `position_eq` says that the bound on the number of steps plays no part.
`position_of_error` says where the search ends: in a tree with the right marks, at an error without
another one in it, and there at the last token of the first row.
-/

namespace Advisor.Diagnosis

open Spot

/-! ## One step -/

/-- The children of a node that are errors or are marked as holding some. -/
def troubled (s : Spot) : List Spot := s.children.filter fun c => c.isError || c.label.hasError

/-- **One step of the search**: from an error node to the first child with an error in it, and if
that is no error itself, to the earliest error in it. If the mark was wrong, the child is taken as
it is. -/
def inner? (s : Spot) : Option Spot :=
  if s.kind == "ERROR" then
    (troubled s).head?.map fun c => if c.isError then c else c.firstError.getD c
  else none

/-- Whether a leaf is a token in the first row of a node. -/
def onFirstRow (s t : Spot) : Bool := !t.label.missing && t.label.row == s.label.row

/-- What is taken where no step leads on: the last token of the first row, or else the node. -/
def stumbledAt (s : Spot) : Spot :=
  if s.kind == "ERROR" then (s.leaves.filter (onFirstRow s)).getLast?.getD s else s

/-- With steps left, the search makes one if it can. -/
theorem positionWithin_succ (steps : Nat) (s : Spot) :
    positionWithin (steps + 1) s = (inner? s).elim (stumbledAt s) (positionWithin steps) := by
  by_cases hkind : (s.kind == "ERROR") = true
  · rw [positionWithin, inner?, stumbledAt, if_pos hkind, if_pos hkind, if_pos hkind, ← troubled]
    cases troubled s with
    | nil => rfl
    | cons c rest => rfl
  · rw [positionWithin, inner?, stumbledAt, if_neg hkind, if_neg hkind, if_neg hkind]
    rfl

/-- A step goes through a child. -/
theorem exists_of_inner?_eq_some {s t : Spot} (h : inner? s = some t) :
    ∃ c ∈ s.children, (c.isError = true ∨ c.label.hasError = true) ∧
      t = if c.isError then c else c.firstError.getD c := by
  unfold inner? at h
  split at h
  · obtain ⟨c, hhead, rfl⟩ := Option.map_eq_some_iff.mp h
    obtain ⟨hchild, htrouble⟩ := List.mem_filter.mp (List.mem_of_head? hhead)
    exact ⟨c, hchild, by simpa using htrouble, rfl⟩
  · cases h

/-- **A step goes down**: to a child or below it. -/
theorem exists_child_of_inner? {s t : Spot} (h : inner? s = some t) :
    ∃ c ∈ s.children, t.Within c := by
  obtain ⟨c, hchild, -, rfl⟩ := exists_of_inner?_eq_some h
  refine ⟨c, hchild, ?_⟩
  split
  · exact .here
  · cases hfirst : c.firstError with
    | none => exact .here
    | some e => exact within_firstError hfirst

theorem size_lt_of_inner? {s t : Spot} (h : inner? s = some t) : t.tree.size < s.tree.size := by
  obtain ⟨c, hchild, hwithin⟩ := exists_child_of_inner? h
  exact (size_le_of_within hwithin).trans_lt (size_lt_of_mem_children hchild)

theorem within_stumbledAt (s : Spot) : (stumbledAt s).Within s := by
  unfold stumbledAt
  split
  · cases hlast : (s.leaves.filter (onFirstRow s)).getLast? with
    | none => exact .here
    | some t =>
      have hleaf := (List.mem_filter.mp (List.mem_of_getLast? hlast)).1
      exact mem_preorder_iff.mp (List.mem_filter.mp hleaf).1
  · exact .here

/-! ## The search as a whole -/

/-- As many steps as the tree has nodes are enough: more make no difference. -/
theorem positionWithin_congr {s : Spot} {steps more : Nat} (hsteps : s.tree.size ≤ steps)
    (hmore : s.tree.size ≤ more) : positionWithin steps s = positionWithin more s := by
  have hpos := SyntaxTree.size_eq s.tree
  induction steps generalizing s more with
  | zero => omega
  | succ steps ih =>
    obtain ⟨more, rfl⟩ : ∃ k, more = k + 1 := ⟨more - 1, by omega⟩
    rw [positionWithin_succ, positionWithin_succ]
    cases hinner : inner? s with
    | none => rfl
    | some t =>
      have hlt := size_lt_of_inner? hinner
      exact ih (by omega) (by omega) (SyntaxTree.size_eq t.tree)

theorem positionWithin_eq_position {s : Spot} {steps : Nat} (h : s.preorder.length ≤ steps) :
    positionWithin steps s = position s := by
  rw [length_preorder] at h
  exact positionWithin_congr h (length_preorder s).ge

/-- **The search without a bound**: make a step if there is one, and go on from there. -/
theorem position_eq (s : Spot) : position s = (inner? s).elim (stumbledAt s) position := by
  rw [← positionWithin_eq_position (Nat.le_succ s.preorder.length), positionWithin_succ]
  cases hinner : inner? s with
  | none => rfl
  | some t =>
    have hlt := size_lt_of_inner? hinner
    rw [← length_preorder, ← length_preorder] at hlt
    exact positionWithin_eq_position hlt.le

/-- The search goes from one node to the next. -/
def Narrows (s t : Spot) : Prop := inner? s = some t

/-- **The search ends**: after finitely many steps no other one is possible. -/
theorem exists_end (s : Spot) :
    ∃ e, Relation.ReflTransGen Narrows s e ∧ inner? e = none ∧ position s = stumbledAt e := by
  induction hn : s.tree.size using Nat.strong_induction_on generalizing s with
  | _ n ih =>
    subst hn
    cases hinner : inner? s with
    | none => exact ⟨s, .refl, hinner, by rw [position_eq, hinner]; rfl⟩
    | some t =>
      obtain ⟨e, hsteps, hend, hposition⟩ := ih _ (size_lt_of_inner? hinner) t rfl
      refine ⟨e, .head hinner hsteps, hend, ?_⟩
      rw [position_eq, hinner]
      exact hposition

theorem within_of_narrows {s e : Spot} (h : Relation.ReflTransGen Narrows s e) : e.Within s := by
  induction h with
  | refl => exact .here
  | tail _ hstep ih =>
    obtain ⟨c, hchild, hwithin⟩ := exists_child_of_inner? hstep
    exact (Within.deeper hchild hwithin).trans ih

/-- **An error is reported at a node of its own tree.** -/
theorem position_within (s : Spot) : (position s).Within s := by
  obtain ⟨e, hsteps, -, hposition⟩ := exists_end s
  rw [hposition]
  exact (within_stumbledAt e).trans (within_of_narrows hsteps)

theorem within_position {tree : SyntaxTree} {e : Spot} (h : error? tree = some e) :
    (position e).Within (root tree) := (position_within e).trans (within_error? h)

/-! ## Trees with the right marks -/

/-- **A step leads to an error** where the marks are right. -/
theorem isError_of_inner? {s t : Spot} (hmarked : s.Marked) (h : inner? s = some t) :
    t.isError = true := by
  obtain ⟨c, hchild, htrouble, rfl⟩ := exists_of_inner?_eq_some h
  by_cases herror : c.isError = true
  · rwa [if_pos herror]
  · rw [if_neg herror]
    have hwithin := within_of_mem_children hchild
    obtain ⟨e, he, hee⟩ := (hmarked c hwithin).mp (htrouble.resolve_left herror)
    obtain ⟨top, htop, -⟩ := (hmarked.of_within hwithin).exists_topErrors he hee
    rcases firstError_cases c with ⟨hnil, -⟩ | ⟨f, hf, hlast⟩
    · rw [hnil] at htop
      cases htop
    · rw [hf]
      exact isError_of_mem_topErrors hlast.mem

/-- And so do all steps together, from an error node. -/
theorem isError_of_narrows {s e : Spot} (hmarked : s.Marked) (herror : s.isError = true)
    (h : Relation.ReflTransGen Narrows s e) : e.isError = true := by
  induction h with
  | refl => exact herror
  | tail hsteps hstep _ =>
    exact isError_of_inner? (hmarked.of_within (within_of_narrows hsteps)) hstep

/-- **An error node without a step has no error in it.** -/
theorem isError_eq_false_of_inner?_eq_none {e : Spot} (hmarked : e.Marked)
    (hkind : e.kind = "ERROR") (h : inner? e = none) :
    ∀ c ∈ e.children, ∀ d : Spot, d.Within c → d.isError = false := by
  rw [inner?, if_pos (by simpa using hkind), Option.map_eq_none_iff, List.head?_eq_none_iff,
    troubled, List.filter_eq_nil_iff] at h
  intro c hchild d hd
  have htrouble := h c hchild
  rw [Bool.or_eq_true, not_or, hmarked c (within_of_mem_children hchild)] at htrouble
  by_contra herror
  exact htrouble.2 ⟨d, hd, by simpa using herror⟩

/-! ## The token -/

/-- `r` is the last token in the first row of `e`, or `e` itself if there is none. -/
def LastToken (e r : Spot) : Prop :=
  (∃ front back, e.frontier = front ++ r :: back ∧
    (r.label.missing = false ∧ r.label.row = e.label.row) ∧
    ∀ d ∈ back, ¬ (d.label.missing = false ∧ d.label.row = e.label.row)) ∨
  (r = e ∧ ∀ d ∈ e.frontier, ¬ (d.label.missing = false ∧ d.label.row = e.label.row))

theorem onFirstRow_iff {s t : Spot} :
    onFirstRow s t = true ↔ t.label.missing = false ∧ t.label.row = s.label.row := by
  simp [onFirstRow]

theorem lastToken_stumbledAt {e : Spot} (hkind : e.kind = "ERROR") :
    LastToken e (stumbledAt e) := by
  rw [stumbledAt, if_pos (by simpa using hkind), leaves_eq_frontier, List.getLast?_filter]
  cases hfind : e.frontier.reverse.find? (onFirstRow e) with
  | none =>
    refine .inr ⟨rfl, fun d hd => ?_⟩
    rw [← onFirstRow_iff]
    exact List.find?_eq_none.mp hfind d (List.mem_reverse.mpr hd)
  | some r =>
    obtain ⟨hr, back, front, hsplit, hback⟩ := List.find?_eq_some_iff_append.mp hfind
    refine .inl ⟨front.reverse, back.reverse, ?_, onFirstRow_iff.mp hr, fun d hd => ?_⟩
    · rw [← List.reverse_reverse e.frontier, hsplit]
      simp
    · rw [← onFirstRow_iff]
      simpa using hback d (List.mem_reverse.mp hd)

/-- **Where an error is reported.** From any node of any tree the search ends, at a node that no
step leads on from, and what it takes there is the node it began at or one below. As many steps as
there are nodes are always enough. If it begins at an error node of a tree with the right marks, it
ends at an error node without an error below it, and takes the last token of the first row from the
left to the right, or that node if there is none; or it ends at a node that the text lacks, and
takes that. If nodes lie within their parents, what it takes starts within the node it began at. -/
theorem position_of_error (n : Spot) :
    (position n).Within n ∧
    (∀ steps, n.preorder.length ≤ steps → positionWithin steps n = position n) ∧
    (∃ e, Relation.ReflTransGen Narrows n e ∧ inner? e = none ∧ position n = stumbledAt e ∧
      (n.isError = true → n.Marked → e.Within n ∧
        ((e.kind = "ERROR" ∧ (∀ c ∈ e.children, ∀ d : Spot, d.Within c → d.isError = false) ∧
            LastToken e (position n)) ∨
          (e.kind ≠ "ERROR" ∧ e.label.missing = true ∧ position n = e)))) ∧
    (n.Nested → n.label.startByte ≤ (position n).label.startByte ∧
      (position n).label.startByte ≤ n.label.endByte) := by
  have hwithin := position_within n
  refine ⟨hwithin, fun steps => positionWithin_eq_position, ?_, fun hnested => ?_⟩
  · obtain ⟨e, hsteps, hend, hposition⟩ := exists_end n
    refine ⟨e, hsteps, hend, hposition, fun herror hmarked => ?_⟩
    have he := within_of_narrows hsteps
    refine ⟨he, ?_⟩
    rw [hposition]
    by_cases hkind : e.kind = "ERROR"
    · exact .inl ⟨hkind, isError_eq_false_of_inner?_eq_none (hmarked.of_within he) hkind hend,
        lastToken_stumbledAt hkind⟩
    · have hlacking := isError_of_narrows hmarked herror hsteps
      rw [Spot.isError, SyntaxTree.isError, Bool.or_eq_true, beq_iff_eq] at hlacking
      refine .inr ⟨hkind, hlacking.resolve_left hkind, ?_⟩
      rw [stumbledAt, if_neg (by simpa using hkind)]
  · obtain ⟨hstart, hstop⟩ := hnested.bounds hwithin
    have hspan := (hnested (position n) hwithin).1
    exact ⟨hstart, hspan.trans hstop⟩

/-- An error inside a block inside an error, with two tokens in its first row and one in the next. -/
def innerError : Spot :=
  ⟨.node ⟨"ERROR", 4, 8, 0, 4, false, true⟩
    [.node ⟨"identifier", 4, 5, 0, 4, false, false⟩ [], .node ⟨"(", 5, 6, 0, 5, false, false⟩ [],
      .node ⟨"number", 7, 8, 1, 0, false, false⟩ []], ["statement_block", "ERROR", "program"]⟩

def outerError : Spot :=
  ⟨.node ⟨"ERROR", 0, 9, 0, 0, false, true⟩
    [.node ⟨"identifier", 0, 1, 0, 0, false, false⟩ [],
      .node ⟨"statement_block", 2, 9, 0, 2, false, true⟩ [innerError.tree]], ["program"]⟩

theorem wellFormed_innerError : innerError.WellFormed := by
  have hchildren : innerError.children =
      [⟨.node ⟨"identifier", 4, 5, 0, 4, false, false⟩ [], innerError.kind :: innerError.around⟩,
        ⟨.node ⟨"(", 5, 6, 0, 5, false, false⟩ [], innerError.kind :: innerError.around⟩,
        ⟨.node ⟨"number", 7, 8, 1, 0, false, false⟩ [], innerError.kind :: innerError.around⟩] := rfl
  refine .of_children (by decide) ?_ ?_ ?_ ?_
  · rw [hchildren]; decide
  · rw [hchildren]; decide
  · rw [hchildren]; decide
  · rw [hchildren]
    simp only [List.forall_mem_cons]
    exact ⟨.leaf (by decide) (by decide) _, .leaf (by decide) (by decide) _,
      .leaf (by decide) (by decide) _, by simp⟩

theorem wellFormed_outerError : outerError.WellFormed := by
  have hblock : WellFormed ⟨.node ⟨"statement_block", 2, 9, 0, 2, false, true⟩ [innerError.tree],
      ["ERROR", "program"]⟩ := by
    refine .of_children (by decide) ?_ ?_ ?_ ?_
    · exact List.forall_mem_singleton.mpr (by decide)
    · exact List.pairwise_singleton _ _
    · exact iff_of_true rfl (.inr ⟨innerError, List.mem_singleton_self _, rfl⟩)
    · exact List.forall_mem_singleton.mpr wellFormed_innerError
  have hchildren : outerError.children =
      [⟨.node ⟨"identifier", 0, 1, 0, 0, false, false⟩ [], ["ERROR", "program"]⟩,
        ⟨.node ⟨"statement_block", 2, 9, 0, 2, false, true⟩ [innerError.tree],
          ["ERROR", "program"]⟩] := rfl
  refine .of_children (by decide) ?_ ?_ ?_ ?_
  · rw [hchildren]; decide
  · rw [hchildren]; decide
  · rw [hchildren]; decide
  · rw [hchildren]
    simp only [List.forall_mem_cons]
    exact ⟨.leaf (by decide) (by decide) _, hblock, by simp⟩

/-- The search goes two levels down at once, and takes the bracket at the end of the first row. -/
theorem position_of_outerError :
    outerError.isError = true ∧ outerError.Marked ∧ outerError.Nested ∧
      (position outerError).label = ⟨"(", 5, 6, 0, 5, false, false⟩ ∧
      (∃ e, Relation.ReflTransGen Narrows outerError e ∧ e.kind = "ERROR" ∧
        (∀ c ∈ e.children, ∀ d : Spot, d.Within c → d.isError = false) ∧
        LastToken e (position outerError)) ∧
      outerError.label.startByte ≤ (position outerError).label.startByte ∧
      (position outerError).label.startByte ≤ outerError.label.endByte := by
  have herror : outerError.isError = true := by decide
  have hlabel : (position outerError).label = ⟨"(", 5, 6, 0, 5, false, false⟩ := by cbv
  have hmarked : outerError.Marked := wellFormed_outerError.marked
  obtain ⟨-, -, ⟨e, hsteps, -, -, hend⟩, hspan⟩ := position_of_error outerError
  refine ⟨herror, hmarked, wellFormed_outerError.nested, hlabel, ?_,
    hspan wellFormed_outerError.nested⟩
  rcases (hend herror hmarked).2 with ⟨hkind, hinner, htoken⟩ | ⟨-, hlacking, htaken⟩
  · exact ⟨e, hsteps, hkind, hinner, htoken⟩
  · rw [← htaken, hlabel] at hlacking
    cases hlacking

end Advisor.Diagnosis
