import Advisor.SyntaxTree
import Mathlib

/-!
# Searching a syntax tree

The searches go through a tree with an explicit stack. `preorder_eq` and `find?_eq` set the listing
and the search for one node beside the recursion over the tree, and `firstError_eq_foldr` does so
for the search for the earliest error: it is one pass over the topmost errors (`topErrors`) from the
last to the first. From there on stacks play no part. `leaves_eq_frontier` does the same for the
leaves. In a tree whose nodes lie within each other as in a text (`WellFormed`) both searches find a
node that starts first among all of its kind: `earliest_find?` and `earliest_firstError`. Two parts
of being well-formed are used on their own: the marks (`Marked`) and the spans (`Nested`).
-/

namespace Advisor.Spot

/-! ## The nodes of a tree -/

/-- `d` is a node of the tree at `s`: the place itself, or a node of the tree at one of its
children. -/
inductive Within (d : Spot) : Spot → Prop
  | here : Within d d
  | deeper {s c : Spot} : c ∈ s.children → Within d c → Within d s

theorem Within.trans {d c s : Spot} (hd : d.Within c) (hc : c.Within s) : d.Within s := by
  induction hc with
  | here => exact hd
  | deeper hmem _ ih => exact .deeper hmem ih

theorem within_of_mem_children {s c : Spot} (h : c ∈ s.children) : c.Within s := .deeper h .here

theorem within_iff {d s : Spot} : d.Within s ↔ d = s ∨ ∃ c ∈ s.children, d.Within c := by
  constructor
  · intro h
    cases h with
    | here => exact .inl rfl
    | deeper hmem hd => exact .inr ⟨_, hmem, hd⟩
  · rintro (rfl | ⟨c, hmem, hd⟩)
    · exact .here
    · exact .deeper hmem hd

theorem size_lt_of_mem_children {s c : Spot} (h : c ∈ s.children) : c.tree.size < s.tree.size := by
  have hle : ∀ ss : List Spot, c ∈ ss → c.tree.size ≤ totalSize ss := by
    intro ss hc
    induction ss with
    | nil => cases hc
    | cons a rest ih =>
      rw [totalSize]
      rcases List.mem_cons.mp hc with rfl | hrest
      · omega
      · have := ih hrest
        omega
  have := hle s.children h
  have := totalSize_children s
  omega

theorem size_le_of_within {d s : Spot} (h : d.Within s) : d.tree.size ≤ s.tree.size := by
  induction h with
  | here => exact le_refl _
  | deeper hmem _ ih => exact ih.trans (size_lt_of_mem_children hmem).le

/-- Induction over a tree: a node from its children. -/
@[elab_as_elim]
theorem induction_on {P : Spot → Prop} (s : Spot)
    (node : ∀ s, (∀ c ∈ s.children, P c) → P s) : P s := by
  induction hn : s.tree.size using Nat.strong_induction_on generalizing s with
  | _ n ih =>
    subst hn
    exact node s fun c hc => ih _ (size_lt_of_mem_children hc) c rfl

/-! ## The listing and the search for one node -/

/-- What was found before stands in front. -/
theorem listFrom_found (stack found before : List Spot) :
    listFrom stack (found ++ before) = before.reverse ++ listFrom stack found := by
  fun_induction listFrom stack found with
  | case1 found => rw [listFrom, List.reverse_append]
  | case2 found s rest ih => rw [listFrom, ← List.cons_append, ih]

/-- A stack is worked off from its top. -/
theorem listFrom_append (stack rest found : List Spot) :
    listFrom (stack ++ rest) found = listFrom stack found ++ listFrom rest [] := by
  fun_induction listFrom stack found with
  | case1 found => rw [List.nil_append, ← listFrom_found, List.nil_append]
  | case2 found s more ih => rw [List.cons_append, listFrom, ← ih, List.append_assoc]

theorem listFrom_eq_flatMap (stack : List Spot) : listFrom stack [] = stack.flatMap preorder := by
  induction stack with
  | nil => rw [listFrom, List.flatMap_nil, List.reverse_nil]
  | cons s rest ih =>
    rw [← List.singleton_append, listFrom_append, ih, List.flatMap_append, List.flatMap_singleton,
      preorder]

/-- **The listing of a tree** is its root, followed by the listings of the children from left to
right. -/
theorem preorder_eq (s : Spot) : s.preorder = s :: s.children.flatMap preorder := by
  have hchildren := listFrom_found s.children [] [s]
  rw [List.nil_append, listFrom_eq_flatMap] at hchildren
  rw [preorder, listFrom, List.append_nil, hchildren]
  rfl

/-- **The listing has all nodes.** -/
theorem mem_preorder_iff {d s : Spot} : d ∈ s.preorder ↔ d.Within s := by
  induction s using induction_on with
  | node s ih =>
    rw [preorder_eq, List.mem_cons, List.mem_flatMap, within_iff]
    refine or_congr_right (exists_congr fun c => and_congr_right fun hc => ?_)
    exact ih c hc

/-- It has as many places as the tree has nodes. -/
theorem length_preorder (s : Spot) : s.preorder.length = s.tree.size := by
  have hchildren (cs : List Spot) (h : ∀ c ∈ cs, c.preorder.length = c.tree.size) :
      (cs.flatMap preorder).length = totalSize cs := by
    induction cs with
    | nil => rfl
    | cons c rest ih =>
      obtain ⟨hc, hrest⟩ := List.forall_mem_cons.mp h
      rw [List.flatMap_cons, List.length_append, hc, ih hrest, totalSize]
  induction s using induction_on with
  | node s ih => rw [preorder_eq, List.length_cons, hchildren s.children ih, totalSize_children]

/-- The leaves of a tree from left to right: its root, if that has no children, and else the leaves
of the children one after the other. -/
def frontier (s : Spot) : List Spot :=
  if s.children = [] then [s] else s.children.attach.flatMap fun c => frontier c.1
termination_by s.tree.size
decreasing_by exact size_lt_of_mem_children c.2

theorem frontier_of_children {s : Spot} (h : s.children ≠ []) :
    s.frontier = s.children.flatMap frontier := by
  rw [frontier, if_neg h]
  simp

/-- **The leaves that are listed** are those from left to right. -/
theorem leaves_eq_frontier (s : Spot) : s.leaves = s.frontier := by
  induction s using induction_on with
  | node s ih =>
    have hbelow : (s.children.flatMap preorder).filter (fun d => d.tree.children.isEmpty) =
        s.children.flatMap frontier := by
      rw [List.filter_flatMap]
      exact List.flatMap_congr ih
    have hroot : s.tree.children.isEmpty = true ↔ s.children = [] := by
      rw [children, List.map_eq_nil_iff, List.isEmpty_iff]
    rw [leaves, preorder_eq, List.filter_cons, hbelow]
    by_cases hleaf : s.children = []
    · rw [if_pos (hroot.mpr hleaf), hleaf, frontier, if_pos hleaf]
      rfl
    · rw [if_neg (hroot.not.mpr hleaf), frontier_of_children hleaf]

theorem findFrom_eq (p : Spot → Bool) (stack : List Spot) :
    findFrom p stack = (stack.flatMap preorder).find? p := by
  fun_induction findFrom p stack with
  | case1 => rfl
  | case2 s rest hp =>
    rw [List.flatMap_cons, preorder_eq, List.cons_append, List.find?_cons_of_pos hp]
  | case3 s rest hp ih =>
    rw [ih, List.flatMap_cons, preorder_eq, List.cons_append, List.find?_cons_of_neg hp,
      List.flatMap_append]

/-- **The search for a node** finds the first of the listing. -/
theorem find?_eq (p : Spot → Bool) (s : Spot) : s.find? p = s.preorder.find? p := by
  rw [find?, findFrom_eq, List.flatMap_singleton]

/-- It misses none. -/
theorem find?_eq_none_iff {p : Spot → Bool} {s : Spot} :
    s.find? p = none ↔ ∀ d : Spot, d.Within s → p d = false := by
  simp only [find?_eq, List.find?_eq_none, mem_preorder_iff, Bool.not_eq_true]

theorem within_of_find?_eq_some {p : Spot → Bool} {s d : Spot} (h : s.find? p = some d) :
    d.Within s ∧ p d = true := by
  rw [find?_eq] at h
  exact ⟨mem_preorder_iff.mp (List.mem_of_find?_eq_some h), List.find?_some h⟩

/-! ## The search for the earliest error -/

/-- The topmost error nodes that are reached through children marked as holding an error, in the
order of the text. -/
def topErrors (s : Spot) : List Spot :=
  if s.isError then [s]
  else (s.children.filter (·.label.hasError)).attach.flatMap fun c => topErrors c.1
termination_by s.tree.size
decreasing_by exact size_lt_of_mem_children (List.mem_filter.mp c.2).1

theorem topErrors_of_isError {s : Spot} (h : s.isError = true) : s.topErrors = [s] := by
  rw [topErrors, if_pos h]

theorem topErrors_of_not_isError {s : Spot} (h : ¬ s.isError = true) :
    s.topErrors = (s.children.filter (·.label.hasError)).flatMap topErrors := by
  rw [topErrors, if_neg h]
  simp

theorem isError_of_mem_topErrors {s e : Spot} (h : e ∈ s.topErrors) : e.isError = true := by
  induction s using induction_on with
  | node s ih =>
    by_cases hs : s.isError = true
    · rw [topErrors_of_isError hs, List.mem_singleton] at h
      rwa [h]
    · rw [topErrors_of_not_isError hs] at h
      obtain ⟨c, hc, he⟩ := List.mem_flatMap.mp h
      exact ih c (List.mem_filter.mp hc).1 he

/-- The topmost errors stand in the order of the listing. -/
theorem topErrors_sublist_preorder (s : Spot) : s.topErrors.Sublist s.preorder := by
  induction s using induction_on with
  | node s ih =>
    have hchildren : ∀ cs : List Spot, (∀ c ∈ cs, c.topErrors.Sublist c.preorder) →
        ((cs.filter (·.label.hasError)).flatMap topErrors).Sublist (cs.flatMap preorder) := by
      intro cs hcs
      induction cs with
      | nil => exact .slnil
      | cons c rest ihrest =>
        obtain ⟨hc, hrest⟩ := List.forall_mem_cons.mp hcs
        rw [List.filter_cons, List.flatMap_cons]
        split
        · exact hc.append (ihrest hrest)
        · exact (ihrest hrest).trans (List.sublist_append_right _ _)
    rw [preorder_eq]
    by_cases hs : s.isError = true
    · rw [topErrors_of_isError hs]
      exact List.singleton_sublist.mpr List.mem_cons_self
    · rw [topErrors_of_not_isError hs]
      exact (hchildren s.children ih).cons s

theorem within_of_mem_topErrors {s e : Spot} (h : e ∈ s.topErrors) : e.Within s :=
  mem_preorder_iff.mp ((topErrors_sublist_preorder s).subset h)

/-- The stack holds the topmost errors that are still to come, the last of them on top. -/
theorem firstErrorFrom_eq (stack : List Spot) (best : Option Spot) :
    firstErrorFrom stack best =
      (stack.flatMap fun s => s.topErrors.reverse).foldl earlier best := by
  fun_induction firstErrorFrom stack best with
  | case1 best => rfl
  | case2 best s rest hs ih => rw [ih, List.flatMap_cons, topErrors_of_isError hs]; rfl
  | case3 best s rest hs ih =>
    have htop : s.topErrors.reverse =
        (s.children.filter (·.label.hasError)).reverse.flatMap fun c => c.topErrors.reverse := by
      rw [topErrors_of_not_isError hs, List.reverse_flatMap]
      rfl
    rw [ih, List.flatMap_append, List.flatMap_cons, htop]

/-- **The search for the earliest error** is one pass over the topmost errors, from the last to the
first. -/
theorem firstError_eq_foldr (s : Spot) :
    s.firstError = s.topErrors.foldr (fun e best => earlier best e) none := by
  rw [firstError, firstErrorFrom_eq, List.flatMap_singleton, List.foldl_reverse]

/-- `e` starts first among some places and is the last of those that start where it does: none in
front of it starts earlier, and all behind it start later. -/
def LastEarliest (places : List Spot) (e : Spot) : Prop :=
  ∃ front back, places = front ++ e :: back ∧
    (∀ d ∈ front, e.label.startByte ≤ d.label.startByte) ∧
    ∀ d ∈ back, e.label.startByte < d.label.startByte

theorem LastEarliest.mem {places : List Spot} {e : Spot} (h : LastEarliest places e) :
    e ∈ places := by
  obtain ⟨front, back, rfl, -, -⟩ := h
  simp

theorem LastEarliest.startByte_le {places : List Spot} {e d : Spot} (h : LastEarliest places e)
    (hd : d ∈ places) : e.label.startByte ≤ d.label.startByte := by
  obtain ⟨front, back, rfl, hfront, hback⟩ := h
  rcases List.mem_append.mp hd with hd | hd
  · exact hfront d hd
  · rcases List.mem_cons.mp hd with rfl | hd
    · exact le_refl _
    · exact (hback d hd).le

/-- A pass from the last place to the first, which lets go of a place only for an earlier one, ends
at the last of the earliest. -/
theorem foldr_earlier_cases (places : List Spot) :
    (places = [] ∧ places.foldr (fun e best => earlier best e) none = none) ∨
      ∃ e, places.foldr (fun e best => earlier best e) none = some e ∧ LastEarliest places e := by
  induction places with
  | nil => exact .inl ⟨rfl, rfl⟩
  | cons d rest ih =>
    right
    rw [List.foldr_cons]
    rcases ih with ⟨rfl, hnone⟩ | ⟨b, hb, hlast⟩
    · exact ⟨d, rfl, [], [], rfl, by simp, by simp⟩
    · rw [hb, earlier]
      by_cases hlt : d.label.startByte < b.label.startByte
      · refine ⟨d, if_pos hlt, [], rest, rfl, by simp, fun a ha => ?_⟩
        exact hlt.trans_le (hlast.startByte_le ha)
      · obtain ⟨front, back, rfl, hfront, hback⟩ := hlast
        exact ⟨b, if_neg hlt, d :: front, back, rfl,
          List.forall_mem_cons.mpr ⟨not_lt.mp hlt, hfront⟩, hback⟩

/-- **What the search for the earliest error finds** in any tree: of the topmost errors that start
first, the last. -/
theorem firstError_cases (s : Spot) :
    (s.topErrors = [] ∧ s.firstError = none) ∨
      ∃ e, s.firstError = some e ∧ LastEarliest s.topErrors e := by
  rw [firstError_eq_foldr]
  exact foldr_earlier_cases s.topErrors

theorem within_firstError {s e : Spot} (h : s.firstError = some e) : e.Within s := by
  rcases firstError_cases s with ⟨-, hnone⟩ | ⟨e', he', hlast⟩
  · rw [hnone] at h
    cases h
  · rw [he'] at h
    cases h
    exact within_of_mem_topErrors hlast.mem

/-- Exactly the nodes that are errors or hold some are marked so. -/
def Marked (s : Spot) : Prop :=
  ∀ d : Spot, d.Within s → (d.label.hasError = true ↔ ∃ e : Spot, e.Within d ∧ e.isError = true)

theorem Marked.of_within {s c : Spot} (h : s.Marked) (hc : c.Within s) : c.Marked :=
  fun d hd => h d (hd.trans hc)

/-- **Every error lies in a topmost one** where the marks are right. -/
theorem Marked.exists_topErrors {s e : Spot} (h : s.Marked) (he : e.Within s)
    (herr : e.isError = true) : ∃ t ∈ s.topErrors, e.Within t := by
  induction he with
  | here => exact ⟨e, by simp [topErrors_of_isError herr], .here⟩
  | @deeper s c hmem he ih =>
    by_cases hs : s.isError = true
    · exact ⟨s, by simp [topErrors_of_isError hs], .deeper hmem he⟩
    · have hchild := within_of_mem_children hmem
      obtain ⟨t, ht, het⟩ := ih (h.of_within hchild)
      have hmarked := (h c hchild).mpr ⟨e, he, herr⟩
      refine ⟨t, ?_, het⟩
      rw [topErrors_of_not_isError hs]
      exact List.mem_flatMap.mpr ⟨c, List.mem_filter.mpr ⟨hmem, hmarked⟩, ht⟩

/-! ## Trees as they stand in a text -/

/-- Nodes do not end before they start, and children lie within their parents. -/
def Nested (s : Spot) : Prop :=
  ∀ d : Spot, d.Within s → d.label.startByte ≤ d.label.endByte ∧ ∀ c ∈ d.children,
    d.label.startByte ≤ c.label.startByte ∧ c.label.endByte ≤ d.label.endByte

/-- All nodes lie within the root. -/
theorem Nested.bounds {s d : Spot} (h : s.Nested) (hd : d.Within s) :
    s.label.startByte ≤ d.label.startByte ∧ d.label.endByte ≤ s.label.endByte := by
  induction hd with
  | here => exact ⟨le_refl _, le_refl _⟩
  | deeper hmem _ ih =>
    have hchild := (h _ .here).2 _ hmem
    have hbelow := ih fun d hd => h d (.deeper hmem hd)
    exact ⟨hchild.1.trans hbelow.1, hbelow.2.trans hchild.2⟩

/-- The nodes of a tree lie within each other as in a text: children within their parent, siblings
in order and apart from each other; and exactly the nodes that are errors or hold some are marked
so. -/
structure WellFormed (s : Spot) : Prop where
  span : ∀ d : Spot, d.Within s → d.label.startByte ≤ d.label.endByte
  inside : ∀ d : Spot, d.Within s → ∀ c ∈ d.children,
    d.label.startByte ≤ c.label.startByte ∧ c.label.endByte ≤ d.label.endByte
  apart : ∀ d : Spot, d.Within s →
    d.children.Pairwise fun a b => a.label.endByte ≤ b.label.startByte
  marked : ∀ d : Spot, d.Within s →
    (d.label.hasError = true ↔ ∃ e : Spot, e.Within d ∧ e.isError = true)

namespace WellFormed

variable {s c d : Spot}

theorem of_within (h : s.WellFormed) (hc : c.Within s) : c.WellFormed where
  span d hd := h.span d (hd.trans hc)
  inside d hd := h.inside d (hd.trans hc)
  apart d hd := h.apart d (hd.trans hc)
  marked d hd := h.marked d (hd.trans hc)

theorem of_mem_children (h : s.WellFormed) (hc : c ∈ s.children) : c.WellFormed :=
  h.of_within (within_of_mem_children hc)

/-- **Node by node**: a tree is well-formed if its root lies around its children as it should, is
marked if it is an error or has a marked child, and the trees at the children are well-formed. -/
theorem of_children (hspan : s.label.startByte ≤ s.label.endByte)
    (hinside : ∀ c ∈ s.children,
      s.label.startByte ≤ c.label.startByte ∧ c.label.endByte ≤ s.label.endByte)
    (hapart : s.children.Pairwise fun a b => a.label.endByte ≤ b.label.startByte)
    (hmarked : s.label.hasError = true ↔
      s.isError = true ∨ ∃ c ∈ s.children, c.label.hasError = true)
    (hchildren : ∀ c ∈ s.children, c.WellFormed) : s.WellFormed where
  span d hd := by
    rcases within_iff.mp hd with rfl | ⟨c, hc, hd⟩
    · exact hspan
    · exact (hchildren c hc).span d hd
  inside d hd := by
    rcases within_iff.mp hd with rfl | ⟨c, hc, hd⟩
    · exact hinside
    · exact (hchildren c hc).inside d hd
  apart d hd := by
    rcases within_iff.mp hd with rfl | ⟨c, hc, hd⟩
    · exact hapart
    · exact (hchildren c hc).apart d hd
  marked d hd := by
    rcases within_iff.mp hd with rfl | ⟨c, hc, hd⟩
    · rw [hmarked]
      constructor
      · rintro (herr | ⟨c, hc, hmark⟩)
        · exact ⟨d, .here, herr⟩
        · obtain ⟨e, he, herr⟩ := ((hchildren c hc).marked c .here).mp hmark
          exact ⟨e, .deeper hc he, herr⟩
      · rintro ⟨e, he, herr⟩
        rcases within_iff.mp he with rfl | ⟨c, hc, he⟩
        · exact .inl herr
        · exact .inr ⟨c, hc, ((hchildren c hc).marked c .here).mpr ⟨e, he, herr⟩⟩
    · exact (hchildren c hc).marked d hd

/-- A node without children is well-formed if it is marked exactly as an error. -/
theorem leaf {l : NodeLabel} (hspan : l.startByte ≤ l.endByte)
    (hmark : l.hasError = (SyntaxTree.node l []).isError) (around : List String) :
    WellFormed ⟨.node l [], around⟩ := by
  have hnone : children ⟨.node l [], around⟩ = [] := rfl
  refine of_children hspan (by simp [hnone]) (by simp [hnone]) ?_ (by simp [hnone])
  simp [hnone, Spot.label, SyntaxTree.label, Spot.isError, hmark]

theorem nested (h : s.WellFormed) : s.Nested := fun d hd => ⟨h.span d hd, h.inside d hd⟩

theorem bounds (h : s.WellFormed) (hd : d.Within s) :
    s.label.startByte ≤ d.label.startByte ∧ d.label.endByte ≤ s.label.endByte := h.nested.bounds hd

/-- **The listing goes forward in the text.** -/
theorem pairwise_preorder (h : s.WellFormed) :
    s.preorder.Pairwise fun a b => a.label.startByte ≤ b.label.startByte := by
  induction s using induction_on with
  | node s ih =>
    rw [preorder_eq, List.pairwise_cons, List.pairwise_flatMap]
    refine ⟨fun d hd => ?_, fun c hc => ih c hc (h.of_mem_children hc), ?_⟩
    · obtain ⟨c, hc, hd⟩ := List.mem_flatMap.mp hd
      exact (h.bounds (.deeper hc (mem_preorder_iff.mp hd))).1
    · refine (h.apart s .here).imp_of_mem fun {a b} ha hb hab x hx y hy => ?_
      -- `x` begins before `a` ends, and `y` not before `b` begins
      have hxin := mem_preorder_iff.mp hx
      have hxa := (h.of_mem_children ha).bounds hxin
      have hby := (h.of_mem_children hb).bounds (mem_preorder_iff.mp hy)
      have hspan := (h.of_mem_children ha).span x hxin
      omega

end WellFormed

/-- What was found is, of the nodes with a property, one that starts no later than any other, and
nothing was found only if no node has it. -/
def Earliest (p : Spot → Bool) (s : Spot) : Option Spot → Prop
  | some d => d.Within s ∧ p d = true ∧
      ∀ e : Spot, e.Within s → p e = true → d.label.startByte ≤ e.label.startByte
  | none => ∀ e : Spot, e.Within s → p e = false

/-- **The first node of the listing starts first.** -/
theorem earliest_find? {s : Spot} (h : s.WellFormed) (p : Spot → Bool) :
    Earliest p s (s.find? p) := by
  cases hfind : s.find? p with
  | none => exact find?_eq_none_iff.mp hfind
  | some d =>
    obtain ⟨hwithin, hd⟩ := within_of_find?_eq_some hfind
    rw [find?_eq] at hfind
    obtain ⟨-, front, back, hsplit, hfront⟩ := List.find?_eq_some_iff_append.mp hfind
    have hsorted := h.pairwise_preorder
    rw [hsplit, List.pairwise_append, List.pairwise_cons] at hsorted
    refine ⟨hwithin, hd, fun e he hpe => ?_⟩
    have hmem := mem_preorder_iff.mpr he
    rw [hsplit, List.mem_append, List.mem_cons] at hmem
    rcases hmem with hmem | rfl | hmem
    · have := hfront e hmem
      simp [hpe] at this
    · exact le_refl _
    · exact hsorted.2.1.1 e hmem

/-- The topmost error around an error starts no later. -/
theorem exists_topErrors_le {s e : Spot} (h : s.WellFormed) (he : e.Within s)
    (herr : e.isError = true) :
    ∃ t ∈ s.topErrors, t.label.startByte ≤ e.label.startByte := by
  obtain ⟨t, ht, het⟩ := Marked.exists_topErrors h.marked he herr
  exact ⟨t, ht, ((h.of_within (within_of_mem_topErrors ht)).bounds het).1⟩

/-- **The search for the earliest error** misses none, though it does not look at all nodes. -/
theorem earliest_firstError {s : Spot} (h : s.WellFormed) : Earliest isError s s.firstError := by
  rcases firstError_cases s with ⟨hnil, hnone⟩ | ⟨f, hf, hlast⟩
  · rw [hnone]
    intro e he
    by_contra herr
    obtain ⟨t, ht, -⟩ := exists_topErrors_le h he (by simpa using herr)
    rw [hnil] at ht
    cases ht
  · rw [hf]
    refine ⟨within_firstError hf, isError_of_mem_topErrors hlast.mem, fun e he herr => ?_⟩
    obtain ⟨t, ht, hle⟩ := exists_topErrors_le h he herr
    exact (hlast.startByte_le ht).trans hle

/-- An error is found exactly if the root is marked. -/
theorem firstError_eq_none_iff {s : Spot} (h : s.WellFormed) :
    s.firstError = none ↔ s.label.hasError = false := by
  have hfirst := earliest_firstError h
  rw [← Bool.not_eq_true, h.marked s .here]
  cases hfound : s.firstError with
  | none =>
    rw [hfound] at hfirst
    refine iff_of_true rfl ?_
    rintro ⟨e, he, herr⟩
    rw [hfirst e he] at herr
    cases herr
  | some e =>
    rw [hfound] at hfirst
    exact iff_of_false (by simp) (not_not_intro ⟨e, hfirst.1, hfirst.2.1⟩)

end Advisor.Spot
