import Advisor.Proofs.Verdict

/-!
# The order in which a tree is listed

A stack does not show in which order it gives out the nodes of a tree. `listing` is that order as a
recursion over the tree, and `listFrom_eq_listing` says what the stack still has to give out at any
moment. Which order it is can be said without a recursion too: the address of a node is the way to
it, as the numbers of the children that are taken, and the nodes come in the order of their
addresses, every address once (`Lists`). `nodes_in_order` puts this together for the listing, the
leaves and the search for markup.
-/

namespace Advisor

mutual

/-- The nodes of a tree: its root, then the nodes of its children from left to right. Around it stand
nodes of the given kinds. -/
def SyntaxTree.listing (around : List String) : SyntaxTree → List Spot
  | .node l cs => ⟨.node l cs, around⟩ :: SyntaxTree.listings (l.kind :: around) cs

/-- The nodes of some trees, one tree after the other. -/
def SyntaxTree.listings (around : List String) : List SyntaxTree → List Spot
  | [] => []
  | t :: ts => t.listing around ++ SyntaxTree.listings around ts

end

namespace Spot

open Diagnosis

/-! ## The recursion -/

/-- The nodes of the tree at a place. -/
def listing (s : Spot) : List Spot := s.tree.listing s.around

theorem listings_eq_flatMap (around : List String) (ts : List SyntaxTree) :
    SyntaxTree.listings around ts = (ts.map (⟨·, around⟩ : SyntaxTree → Spot)).flatMap listing := by
  induction ts with
  | nil => rfl
  | cons t rest ih => rw [SyntaxTree.listings, ih, List.map_cons, List.flatMap_cons]; rfl

theorem listing_eq (s : Spot) : s.listing = s :: s.children.flatMap listing := by
  obtain ⟨⟨l, cs⟩, around⟩ := s
  rw [listing, SyntaxTree.listing, listings_eq_flatMap]
  rfl

/-- **At any moment** the stack stands for the listings of the trees on it, from the top on, behind
what has been found. -/
theorem listFrom_eq_listing (stack found : List Spot) :
    listFrom stack found = found.reverse ++ stack.flatMap listing := by
  fun_induction listFrom stack found with
  | case1 found => rw [List.flatMap_nil, List.append_nil]
  | case2 found s rest ih =>
    rw [ih, List.reverse_cons, List.append_assoc, List.singleton_append, List.flatMap_append,
      List.flatMap_cons, listing_eq, List.cons_append]

theorem preorder_eq_listing (s : Spot) : s.preorder = s.listing := by
  rw [preorder, listFrom_eq_listing, List.flatMap_singleton, List.reverse_nil, List.nil_append]

/-! ## Addresses -/

/-- The node at an address, if there is one: the numbers of the children that lead to it. -/
def at? (s : Spot) : List Nat → Option Spot
  | [] => some s
  | i :: rest => s.children[i]?.bind fun c => c.at? rest

/-- The addresses in a tree. -/
def addresses (s : Spot) : List (List Nat) :=
  [] :: (List.finRange s.children.length).flatMap fun i =>
    (addresses (s.children.get i)).map (i.1 :: ·)
termination_by s.tree.size
decreasing_by exact size_lt_of_mem_children (List.get_mem _ _)

theorem at?_get (s : Spot) (i : Fin s.children.length) (rest : List Nat) :
    s.at? (i.1 :: rest) = (s.children.get i).at? rest := by
  rw [at?, List.getElem?_eq_getElem i.2]
  rfl

/-- **All addresses are there.** -/
theorem mem_addresses_iff {s : Spot} {a : List Nat} :
    a ∈ s.addresses ↔ ∃ d, s.at? a = some d := by
  induction a generalizing s with
  | nil =>
    rw [addresses]
    exact iff_of_true List.mem_cons_self ⟨s, rfl⟩
  | cons i rest ih =>
    rw [addresses, List.mem_cons, List.mem_flatMap]
    constructor
    · rintro (h | ⟨j, -, h⟩)
      · cases h
      · obtain ⟨rest', hrest, heq⟩ := List.mem_map.mp h
        cases heq
        rw [at?_get]
        exact ih.mp hrest
    · rintro ⟨d, hd⟩
      obtain ⟨c, hc, hd⟩ := Option.bind_eq_some_iff.mp hd
      obtain ⟨hlt, rfl⟩ := List.getElem?_eq_some_iff.mp hc
      exact .inr ⟨⟨i, hlt⟩, List.mem_finRange _, List.mem_map_of_mem (ih.mpr ⟨d, hd⟩)⟩

/-- **They ascend**: an address comes before those that go on from it, and where two part, the one
further to the left comes first. -/
theorem pairwise_addresses (s : Spot) : s.addresses.Pairwise (· < ·) := by
  induction s using induction_on with
  | node s ih =>
    rw [addresses, List.pairwise_cons, List.pairwise_flatMap]
    refine ⟨fun a ha => ?_, fun i _ => ?_, ?_⟩
    · obtain ⟨i, -, ha⟩ := List.mem_flatMap.mp ha
      obtain ⟨rest, -, rfl⟩ := List.mem_map.mp ha
      exact List.nil_lt_cons _ _
    · rw [List.pairwise_map]
      refine (ih _ (List.get_mem _ i)).imp fun {a b} hab => ?_
      exact List.cons_lt_cons_iff.mpr (.inr ⟨rfl, hab⟩)
    · refine (List.pairwise_lt_finRange _).imp fun {i j} hij a ha b hb => ?_
      obtain ⟨a', -, rfl⟩ := List.mem_map.mp ha
      obtain ⟨b', -, rfl⟩ := List.mem_map.mp hb
      exact List.cons_lt_cons_iff.mpr (.inl hij)

/-- **The listing follows the addresses.** -/
theorem map_at?_addresses (s : Spot) : s.addresses.map s.at? = s.preorder.map some := by
  induction s using induction_on with
  | node s ih =>
    have hchildren : s.children =
        (List.finRange s.children.length).map fun i => s.children.get i := by simp
    have hchild : ∀ i : Fin s.children.length,
        ((s.children.get i).addresses.map (i.1 :: ·)).map s.at? =
          (s.children.get i).preorder.map some := by
      intro i
      rw [← ih _ (List.get_mem _ i), List.map_map]
      exact List.map_congr_left fun rest _ => at?_get s i rest
    have hpreorder : (s.children.flatMap preorder).map some =
        (List.finRange s.children.length).flatMap fun i =>
          (s.children.get i).preorder.map some := by
      conv_lhs => rw [hchildren]
      rw [List.flatMap_map, List.map_flatMap]
    rw [addresses, preorder_eq, List.map_cons, List.map_cons, List.map_flatMap, hpreorder]
    simp only [hchild]
    rfl

/-- **The nodes with a property, in the order of the tree**: one for each address that leads to such a
node, and they come as their addresses ascend. -/
def Lists (s : Spot) (p : Spot → Prop) (listed : List Spot) : Prop :=
  ∃ ways : List (List Nat), ways.Pairwise (· < ·) ∧
    (∀ a, a ∈ ways ↔ ∃ d, s.at? a = some d ∧ p d) ∧ listed.map some = ways.map s.at?

theorem lists_preorder (s : Spot) : Lists s (fun _ => True) s.preorder :=
  ⟨s.addresses, pairwise_addresses s, by simp [mem_addresses_iff], (map_at?_addresses s).symm⟩

/-- Nodes can be picked from such a list. -/
theorem Lists.filter {s : Spot} {p : Spot → Prop} {listed : List Spot} (h : Lists s p listed)
    (q : Spot → Bool) : Lists s (fun d => p d ∧ q d = true) (listed.filter q) := by
  obtain ⟨ways, hways, hmem, hlisted⟩ := h
  refine ⟨ways.filter fun a => (s.at? a).any q, hways.filter _, fun a => ?_, ?_⟩
  · rw [List.mem_filter, hmem]
    constructor
    · rintro ⟨⟨d, hd, hp⟩, hq⟩
      rw [hd] at hq
      exact ⟨d, hd, hp, hq⟩
    · rintro ⟨d, hd, hp, hq⟩
      exact ⟨⟨d, hd, hp⟩, by rw [hd]; exact hq⟩
  · have hpicked : (ways.filter fun a => (s.at? a).any q).map s.at? =
        (ways.map s.at?).filter (·.any q) := by
      rw [List.filter_map]
      rfl
    rw [hpicked, ← hlisted, List.filter_map]
    rfl

theorem lists_leaves (s : Spot) : Lists s (fun d => d.children = []) s.leaves := by
  have h := (lists_preorder s).filter fun d => d.tree.children.isEmpty
  simpa [leaves, children] using h

/-- **The search for a node** stops at the first of the listing that has the property. -/
theorem find?_eq_some_iff {p : Spot → Bool} {s d : Spot} :
    s.find? p = some d ↔ ∃ front back, s.listing = front ++ d :: back ∧ p d = true ∧
      ∀ e ∈ front, p e = false := by
  rw [find?_eq, preorder_eq_listing, List.find?_eq_some_iff_append]
  simp only [Bool.not_eq_true']
  constructor
  · rintro ⟨hd, front, back, hsplit, hfront⟩
    exact ⟨front, back, hsplit, hd, hfront⟩
  · rintro ⟨front, back, hsplit, hd, hfront⟩
    exact ⟨hd, front, back, hsplit, hfront⟩

/-- **The nodes of a tree come in order.** With a stack, the listing of any tree is the one by
recursion: every node comes once, each before its children and children from left to right, which
is the order of the addresses. The leaves are the nodes without children, in that order. The markup
that is found is the first node of the listing whose kind begins with `jsx_`, and none is found
exactly if there is no such node. -/
theorem nodes_in_order (s : Spot) :
    s.preorder = s.listing ∧ Lists s (fun _ => True) s.preorder ∧
    s.leaves = s.frontier ∧ Lists s (fun d => d.children = []) s.leaves ∧
    (∀ d, s.find? isMarkup = some d ↔ ∃ front back, s.listing = front ++ d :: back ∧
      "jsx_".toList <+: d.kind.toList ∧ ∀ e ∈ front, ¬ "jsx_".toList <+: e.kind.toList) ∧
    (s.find? isMarkup = none ↔ ∀ d ∈ s.listing, ¬ "jsx_".toList <+: d.kind.toList) := by
  refine ⟨preorder_eq_listing s, lists_preorder s, leaves_eq_frontier s, lists_leaves s,
    fun d => ?_, ?_⟩
  · simp only [find?_eq_some_iff, ← isMarkup_iff, Bool.not_eq_true]
  · rw [find?_eq, preorder_eq_listing, List.find?_eq_none]
    simp only [isMarkup_iff]

end Spot

end Advisor
