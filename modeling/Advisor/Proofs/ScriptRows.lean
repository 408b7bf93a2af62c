import Advisor.Diagnosis
import Advisor.Proofs.ErrorPosition
import Advisor.Proofs.TextScan
import Advisor.Proofs.Utf8
import Advisor.Proofs.Verdict
import Advisor.Script.Tree
import Mathlib

/-!
# The rows of a script

Rows are looked up in the table of line starts, whatever the parser makes of a text. So all nodes of
the tree of a script stand in rows of the text (`keepsRows_parse`). A diagnostic is put at some node
of the tree, so with any parser that keeps to the rows of its text, the place of a diagnostic is in
a line of the text (`placed_of_validate`).
-/

namespace Advisor

/-! ## Loops that keep something -/

section Loops

variable {α β : Type} {P : β → Prop} {init : β}

/-- What every round of a loop keeps holds at its end, also if the loop is left early. -/
theorem forIn_keeps {f : α → β → Id (ForInStep β)} {l : List α} (hinit : P init)
    (hround : ∀ a b, P b → P (f a b).run.value) : P (forIn l init f).run := by
  induction l generalizing init with
  | nil => exact hinit
  | cons a rest ih =>
    have hvalue := hround a init hinit
    rw [List.forIn_cons]
    generalize f a init = round at hvalue ⊢
    cases round with
    | done b => exact hvalue
    | yield b => exact ih hvalue

theorem forIn_array_keeps {f : α → β → Id (ForInStep β)} {l : Array α} (hinit : P init)
    (hround : ∀ a b, P b → P (f a b).run.value) : P (forIn l init f).run := by
  rw [← Array.forIn_toList]
  exact forIn_keeps hinit hround

theorem forIn_range_keeps {f : Nat → β → Id (ForInStep β)} {n : Nat} (hinit : P init)
    (hround : ∀ i b, P b → P (f i b).run.value) : P (forIn [0:n] init f).run := by
  rw [Std.Legacy.Range.forIn_eq_forIn_range']
  exact forIn_keeps hinit hround

/-- What comes after a loop is told what the loop has kept. -/
theorem run_bind_of_keeps {Q : α → Prop} {x : Id β} {f : β → Id α} (hx : P x.run)
    (hf : ∀ b, P b → Q (f b).run) : Q (x >>= f).run := hf _ hx

end Loops

/-! ## The table of line starts -/

/-- Only a line feed has the byte of a line feed in it. -/
theorem count_lineFeed_utf8EncodeChar (c : Char) :
    (String.utf8EncodeChar c).count 10 = if c = '\n' then 1 else 0 := by
  have hval : c.val.toNat = c.toNat := rfl
  have hfeed : c = '\n' ↔ c.toNat = 10 := Char.toNat_inj.symm
  have hbyte (n : Nat) (hn : n < 256) : UInt8.ofNat n = 10 ↔ n = 10 := by
    rw [← UInt8.toNat_inj, Text.toNat_ofNat_of_lt hn]
    rfl
  rw [String.utf8EncodeChar, hval]
  split
  · have hsmall : c.toNat < 256 := by omega
    simp only [List.count_singleton, beq_iff_eq, hbyte c.toNat hsmall, hfeed]
  · -- the bytes of any other character are all above 127
    have hc : c ≠ '\n' := by
      rw [ne_eq, hfeed]
      omega
    rw [if_neg hc, List.count_eq_zero]
    split
    · simp only [List.mem_cons, List.not_mem_nil, or_false, eq_comm (a := (10 : UInt8))]
      rw [hbyte, hbyte] <;> omega
    · split
      · simp only [List.mem_cons, List.not_mem_nil, or_false, eq_comm (a := (10 : UInt8))]
        rw [hbyte, hbyte, hbyte] <;> omega
      · simp only [List.mem_cons, List.not_mem_nil, or_false, eq_comm (a := (10 : UInt8))]
        rw [hbyte, hbyte, hbyte, hbyte] <;> omega

theorem count_lineFeed_toUTF8 (code : String) :
    code.toUTF8.toList.count 10 = code.toList.count '\n' := by
  rw [String.toUTF8_eq_toByteArray, ← String.utf8Encode_toList, Text.toList_utf8Encode]
  induction code.toList with
  | nil => rfl
  | cons c rest ih =>
    rw [List.flatMap_cons, List.count_append, ih, count_lineFeed_utf8EncodeChar, List.count_cons,
      Nat.add_comm]
    simp only [beq_iff_eq]

namespace Script

open Advisor.Grammar Advisor.Parse

theorem lineStarts_eq_foldl (source : ByteArray) :
    lineStarts source = (List.range source.size).foldl
      (fun starts i => if source.get! i == 10 then starts.push (i + 1) else starts) #[0] := by
  unfold lineStarts
  simp only [Std.Legacy.Range.forIn_eq_forIn_range', ← apply_ite, List.forIn_pure_yield_eq_foldl]
  simp [List.range_eq_range', Std.Legacy.Range.size]

theorem map_get!_range (source : ByteArray) :
    (List.range source.size).map source.get! = source.toList := by
  rw [Text.toList_eq_data]
  refine List.ext_getElem (by simp) fun i hi hi' => ?_
  rw [List.getElem_map, List.getElem_range, Array.getElem_toList]
  exact getElem!_pos source.data i _

/-- There is one line start more than there are line feeds. -/
theorem size_lineStarts (source : ByteArray) :
    (lineStarts source).size = source.toList.count 10 + 1 := by
  have hsize (l : List Nat) (starts : Array Nat) :
      (l.foldl (fun starts i => if source.get! i == 10 then starts.push (i + 1) else starts)
        starts).size = (l.map source.get!).count 10 + starts.size := by
    induction l generalizing starts with
    | nil => simp
    | cons i rest ih =>
      rw [List.foldl_cons, ih, List.map_cons, List.count_cons]
      split
      · rw [Array.size_push]
        omega
      · omega
  rw [lineStarts_eq_foldl, hsize, map_get!_range]
  rfl

/-- **The table has as many entries as the text has lines.** -/
theorem size_lineStarts_toUTF8 (code : String) :
    (lineStarts code.toUTF8).size = (code.toList.splitOn '\n').length := by
  rw [size_lineStarts, count_lineFeed_toUTF8, ← Text.splitOn_eq_list_splitOn, Text.length_splitOn]

/-- The bounds of the search for a row. The upper one never leaves the table. -/
def Bounds (starts : Array Nat) (b : Nat × Nat) : Prop := b.1 < b.2 ∧ b.2 ≤ starts.size

/-- **A row that is looked up is one of the table.** -/
theorem rowOf_lt {starts : Array Nat} (h : 0 < starts.size) (offset : Nat) :
    rowOf starts offset < starts.size := by
  unfold rowOf
  refine run_bind_of_keeps (P := Bounds starts) (Q := (· < starts.size))
    (forIn_range_keeps ⟨h, le_refl _⟩ fun i b hb => ?_) fun b hb => hb.1.trans_le hb.2
  obtain ⟨lo, hi⟩ := b
  obtain ⟨hlo, hhi⟩ : lo < hi ∧ hi ≤ starts.size := hb
  dsimp only
  split
  · exact ⟨hlo, hhi⟩
  · have hmid : lo < (lo + hi) / 2 ∧ (lo + hi) / 2 < hi := by omega
    split
    · exact ⟨hmid.2, hhi⟩
    · exact ⟨hmid.1, hmid.2.le.trans hhi⟩

end Script

/-! ## The nodes of a tree -/

/-- All nodes of a tree have a property. -/
def SyntaxTree.Everywhere (P : NodeLabel → Prop) (t : SyntaxTree) : Prop :=
  ∀ around d, Spot.Within d ⟨t, around⟩ → P d.label

theorem SyntaxTree.everywhere_node {P : NodeLabel → Prop} {l : NodeLabel} {cs : List SyntaxTree}
    (hl : P l) (hcs : ∀ c ∈ cs, c.Everywhere P) : (node l cs).Everywhere P := by
  intro around d hd
  rcases Spot.within_iff.mp hd with rfl | ⟨c, hc, hd⟩
  · exact hl
  · obtain ⟨child, hchild, rfl⟩ := List.mem_map.mp hc
    exact hcs child hchild _ d hd

/-- A parser keeps to its text: all nodes of its trees stand in rows of the text. -/
def Diagnosis.KeepsRows (parse : String → SyntaxTree) : Prop :=
  ∀ code, (parse code).Everywhere fun l => l.row < (code.toList.splitOn '\n').length

namespace Script

open Advisor.Grammar Advisor.Parse

/-- The labels of the nodes that are still to be closed have a property. -/
def Closing (P : NodeLabel → Prop) (tasks : List Task) : Prop := ∀ l, .leave l ∈ tasks → P l

theorem closing_append {P : NodeLabel → Prop} {tasks more : List Task} (h : Closing P tasks)
    (hmore : Closing P more) : Closing P (tasks ++ more) := fun l hl =>
  (List.mem_append.mp hl).elim (h l) (hmore l)

theorem closing_enter {P : NodeLabel → Prop} {tasks : List Task} (h : Closing P tasks)
    (t : Subtree) (renamed : Option SymbolInfo) (start : Nat) :
    Closing P (.enter t renamed start :: tasks) := by
  intro l hl
  rcases List.mem_cons.mp hl with hl | hl
  · cases hl
  · exact h l hl

theorem closing_leave {P : NodeLabel → Prop} {tasks : List Task} {l : NodeLabel} (hl : P l)
    (h : Closing P tasks) : Closing P (.leave l :: tasks) := by
  intro l' hl'
  rcases List.mem_cons.mp hl' with hl' | hl'
  · cases hl'
    exact hl
  · exact h l' hl'

/-- Children are looked at first, and nothing is to be closed for them. -/
theorem closing_childTasks (P : NodeLabel → Prop) (tb : Table) (t : Subtree) (start : Nat) :
    Closing P (childTasks tb t start) := by
  unfold childTasks
  refine run_bind_of_keeps (P := fun b : List Task × Nat × Nat => Closing P b.1) (Q := Closing P)
    (forIn_array_keeps (P := fun b : List Task × Nat × Nat => Closing P b.1) (by simp [Closing])
      fun child b hb => ?_) fun b hb => hb
  dsimp only
  split
  · exact closing_enter hb _ _ _
  · exact closing_enter hb _ _ _

/-- What the conversion of a parser's tree has come to: the labels have a property, those of the
nodes that are done and of those that are still to be closed. -/
def Labelled (P : NodeLabel → Prop) (state : List Task × List (List SyntaxTree)) : Prop :=
  Closing P state.1 ∧ ∀ ts ∈ state.2, ∀ t ∈ ts, t.Everywhere P

/-- **All nodes of the tree that is shown stand in rows of the table.** -/
theorem row_lt_of_present {starts : Array Nat} (h : 0 < starts.size) (tb : Table) (tree : Subtree) :
    (present tb starts tree).Everywhere fun l => l.row < starts.size := by
  unfold present
  refine run_bind_of_keeps (P := Labelled fun l => l.row < starts.size)
    (Q := SyntaxTree.Everywhere fun l => l.row < starts.size)
    (forIn_range_keeps ?_ fun i state hstate => ?_) fun state hstate => ?_
  · exact ⟨by simp [Closing], by simp⟩
  · obtain ⟨tasks, pending⟩ := state
    obtain ⟨hclosing, hpending⟩ := hstate
    dsimp only at hclosing hpending ⊢
    split
    · exact ⟨hclosing, hpending⟩
    · rename_i label rest
      have hrest : Closing (fun l => l.row < starts.size) rest :=
        fun l hl => hclosing l (List.mem_cons_of_mem _ hl)
      split
      · -- the node that is closed takes in the nodes found since it was opened
        rename_i inner outer more
        obtain ⟨hinner, hlater⟩ := List.forall_mem_cons.mp hpending
        obtain ⟨houter, hmore⟩ := List.forall_mem_cons.mp hlater
        refine ⟨hrest, List.forall_mem_cons.mpr ⟨?_, hmore⟩⟩
        refine List.forall_mem_cons.mpr ⟨?_, houter⟩
        exact SyntaxTree.everywhere_node (hclosing label List.mem_cons_self) hinner
      · exact ⟨hrest, hpending⟩
    · rename_i t renamed start rest
      have hrest : Closing (fun l => l.row < starts.size) rest :=
        fun l hl => hclosing l (List.mem_cons_of_mem _ hl)
      have hchildren := closing_childTasks (fun l => l.row < starts.size) tb t start
      split
      · refine ⟨closing_append hchildren (closing_leave ?_ hrest), ?_⟩
        · exact rowOf_lt h _
        · exact List.forall_mem_cons.mpr ⟨by simp, hpending⟩
      · exact ⟨closing_append hchildren hrest, hpending⟩
  · dsimp only
    split
    · rename_i root _ _ hpending
      exact hstate.2 _ (hpending ▸ List.mem_cons_self) root List.mem_cons_self
    · exact SyntaxTree.everywhere_node h (by simp)

/-- **All nodes of the tree of a script stand in rows of the script.** -/
theorem keepsRows_parse : Diagnosis.KeepsRows parse := by
  intro code
  have hpos : 0 < (lineStarts code.toUTF8).size := by
    rw [size_lineStarts]
    omega
  rw [← size_lineStarts_toUTF8]
  unfold parse
  dsimp only
  split
  · exact row_lt_of_present hpos _ _
  · exact SyntaxTree.everywhere_node hpos (by simp)

end Script

/-! ## The place of a diagnostic -/

namespace Diagnosis

open Spot

/-- **A diagnostic stands in the row of some node of the tree.** -/
theorem Ruling.exists_within {source : ByteArray} {tree : SyntaxTree} {markup : Bool}
    {v : Validation} (h : Ruling source tree markup v) {d : Diagnostic} (hd : d ∈ v.errors) :
    ∃ s : Spot, s.Within (root tree) ∧ d.place.line = s.label.row + 1 ∧ 0 ≤ d.place.column := by
  have hplace {s : Spot} {p : Problem} (hs : s.Within (root tree))
      (hd : d ∈ (rejected source s.label p).errors) :
      ∃ s : Spot, s.Within (root tree) ∧ d.place.line = s.label.row + 1 ∧ 0 ≤ d.place.column := by
    rw [List.mem_singleton.mp hd]
    exact ⟨s, hs, rfl, Int.natCast_nonneg _⟩
  cases h with
  | @markup m hm _ =>
    refine hplace ?_ hd
    unfold markup? at hm
    split at hm
    · cases hm
    · exact (within_of_find?_eq_some hm).1
  | error he _ => exact hplace (within_position he) hd
  | unplaced _ _ _ => exact hplace (s := root tree) .here hd
  | accepted _ _ => cases hd

end Diagnosis

/-- **The place of a diagnostic is in a line of the text**, whatever the parser, as long as it keeps
to the text. -/
theorem Diagnosis.placed_of_validate {parse : String → SyntaxTree} (hparse : KeepsRows parse)
    {code : String} {markup : Bool} {d : Diagnostic}
    (hd : d ∈ (validate parse code markup).errors) :
    1 ≤ d.place.line ∧ d.place.line ≤ (code.toList.splitOn '\n').length ∧ 0 ≤ d.place.column := by
  unfold validate at hd
  split at hd
  · cases hd
  · obtain ⟨s, hs, hline, hcolumn⟩ := (judge_ruling _ _ _).exists_within hd
    have hrow := hparse code [] s hs
    dsimp only at hrow
    omega

end Advisor
