import Bindery.Proofs.Document.Element
import Mathlib.Data.List.Nodup
import Mathlib.Data.List.Pairwise

/-!
# Walking the nodes of a translation unit

A walk meets each node before its children, and these before the next node of the same list. From
the top of an arena it meets the numbers of all nodes in their order. So each node is at the top or
a child of one other node, which comes before it.
-/

namespace Bindery.TranslationUnit

open Element

variable {unit : TranslationUnit} {numbers visited : List NodeId} {n m : NodeId}

/-- A walk along a list of nodes meets the nodes `visited`, in this order. -/
inductive Walk (unit : TranslationUnit) : List NodeId → List NodeId → Prop
  | nil : unit.Walk [] []
  | cons {n : NodeId} {later inner behind : List NodeId}
      (hinner : unit.Walk (unit.node n).children inner) (hbehind : unit.Walk later behind) :
      unit.Walk (n :: later) (n :: (inner ++ behind))

/-- A walk along a list of nodes meets the same nodes each time. -/
theorem Walk.unique {visited' : List NodeId} (h : unit.Walk numbers visited)
    (h' : unit.Walk numbers visited') : visited = visited' := by
  induction h generalizing visited' with
  | nil =>
    cases h'
    rfl
  | cons _ _ ihinner ihbehind =>
    cases h' with
    | cons hinner' hbehind' => rw [ihinner hinner', ihbehind hbehind']

/-- A walk meets the nodes of its list and the children of those that it meets, and each of them
exactly as often as it is listed there. -/
theorem Walk.perm (h : unit.Walk numbers visited) :
    visited.Perm (numbers ++ visited.flatMap fun m => (unit.node m).children) := by
  induction h with
  | nil => exact .nil
  | @cons n later inner behind _ _ ihinner ihbehind =>
    -- The children of `n` and what is below them move behind the nodes listed after `n`.
    have hmove := List.perm_append_comm_assoc
      ((unit.node n).children ++ inner.flatMap fun m => (unit.node m).children) later
      (behind.flatMap fun m => (unit.node m).children)
    rw [List.flatMap_cons, List.flatMap_append, List.cons_append,
      ← List.append_assoc _ _ (behind.flatMap _)]
    exact .cons n ((ihinner.append ihbehind).trans hmove)

/-- A walk meets the nodes of its list. -/
theorem Walk.mem_visited (h : unit.Walk numbers visited) (hn : n ∈ numbers) : n ∈ visited :=
  h.perm.mem_iff.mpr (List.mem_append_left _ hn)

/-- A walk along increasing numbers meets no child before its parent. -/
theorem Walk.lt_of_mem_children (h : unit.Walk numbers visited)
    (hsorted : visited.Pairwise (· < ·)) (hm : m ∈ visited) (hn : n ∈ (unit.node m).children) :
    m < n := by
  induction h with
  | nil => cases hm
  | cons hinner _ ihinner ihbehind =>
    obtain ⟨hfirst, hothers⟩ := List.pairwise_cons.mp hsorted
    obtain ⟨hsorted', hsorted'', -⟩ := List.pairwise_append.mp hothers
    rcases List.mem_cons.mp hm with rfl | hothers
    · exact hfirst n (List.mem_append_left _ (hinner.mem_visited hn))
    · rcases List.mem_append.mp hothers with hm' | hm'
      · exact ihinner hsorted' hm'
      · exact ihbehind hsorted'' hm'

/-- Where the nodes of a list of trees stand, a walk along their roots meets one after the other. -/
theorem Holds.walk {start : Nat} {elements : List Element}
    (h : unit.Holds start (nodesAll start elements)) :
    unit.Walk (roots start elements) (List.range' start (sizeAll elements)) := by
  induction elements using listInduction generalizing start with
  | nil => exact .nil
  | cons name attributes children rest ihchildren ihrest =>
    obtain ⟨hnode, hchildren, hrest⟩ := h.of_node
    have hrange : List.range' start (sizeAll (.node name attributes children :: rest)) =
        start :: (List.range' (start + 1) (sizeAll children) ++
          List.range' (start + (sizeAll children + 1)) (sizeAll rest)) := by
      rw [sizeAll, Element.size, Nat.add_right_comm, List.range'_succ, Nat.add_comm (sizeAll _) 1,
        ← Nat.add_assoc, List.range'_append_1]
    rw [hrange]
    refine .cons ?_ (ihrest hrest)
    rw [node_eq_of_getElem? hnode]
    exact ihchildren hchildren

/-- The nodes of a translation unit make up a forest that is numbered in document order. -/
structure InOrder (unit : TranslationUnit) : Prop where
  /-- What is at the top are nodes. -/
  top_lt : ∀ n ∈ unit.top, n < unit.size
  /-- The children of nodes are nodes. -/
  children_lt : ∀ m, ∀ n ∈ (unit.node m).children, n < unit.size
  /-- Walked from the top, the nodes are met in the order of their numbers. -/
  walk : ∀ visited, unit.Walk unit.top visited ↔ visited = List.range unit.size
  /-- No node is at the top twice. -/
  top_nodup : unit.top.Nodup
  /-- No node is a child of the same node twice. -/
  children_nodup : ∀ m, (unit.node m).children.Nodup
  /-- A node is either at the top, or the child of one other node, which comes before it. -/
  place : ∀ n < unit.size, (n ∈ unit.top ∧ ∀ m, n ∉ (unit.node m).children) ∨
    (n ∉ unit.top ∧ ∃ m < n, ∀ m', n ∈ (unit.node m').children ↔ m' = m)

/-- Only the nodes of a translation unit have children. -/
theorem lt_size_of_mem_children (h : n ∈ (unit.node m).children) : m < unit.size := by
  by_contra hnone
  rw [node, Array.getElem?_eq_none (Nat.le_of_not_lt hnone)] at h
  cases h

/-- Where a walk meets all nodes in the order of their numbers, they make up a forest. -/
theorem Walk.inOrder (h : unit.Walk unit.top (List.range unit.size)) : unit.InOrder := by
  have hperm := h.perm
  have hlt {n : NodeId}
      (hmem : n ∈ unit.top ++ (List.range unit.size).flatMap fun m => (unit.node m).children) :
      n < unit.size :=
    List.mem_range.mp (hperm.mem_iff.mpr hmem)
  have hbelow {n m : NodeId} (hn : n ∈ (unit.node m).children) :
      n ∈ (List.range unit.size).flatMap fun m => (unit.node m).children :=
    List.mem_flatMap.mpr ⟨m, List.mem_range.mpr (lt_size_of_mem_children hn), hn⟩
  obtain ⟨htop, hchildren, hdisjoint⟩ :=
    List.nodup_append'.mp (hperm.nodup_iff.mp List.nodup_range)
  obtain ⟨hnodup, hpairwise⟩ := List.nodup_flatMap.mp hchildren
  refine ⟨fun n hn => hlt (List.mem_append_left _ hn),
    fun m n hn => hlt (List.mem_append_right _ (hbelow hn)),
    fun visited => ⟨fun hvisited => hvisited.unique h, fun heq => heq ▸ h⟩, htop, ?_, ?_⟩
  · intro m
    by_cases hm : m < unit.size
    · exact hnodup m (List.mem_range.mpr hm)
    · rw [List.eq_nil_iff_forall_not_mem.mpr fun n hn => hm (lt_size_of_mem_children hn)]
      exact .nil
  · intro n hn
    rcases List.mem_append.mp (hperm.mem_iff.mp (List.mem_range.mpr hn)) with hattop | hin
    · exact .inl ⟨hattop, fun m hm => hdisjoint hattop (hbelow hm)⟩
    · obtain ⟨m, hm, hchild⟩ := List.mem_flatMap.mp hin
      refine .inr ⟨fun hattop => hdisjoint hattop hin, m,
        h.lt_of_mem_children List.pairwise_lt_range hm hchild, fun m' => ⟨fun hchild' => ?_, ?_⟩⟩
      · -- A second parent would share the child with the first one.
        by_contra hne
        have hm' : m' ∈ List.range unit.size :=
          List.mem_range.mpr (lt_size_of_mem_children hchild')
        have hsymm : Std.Symm (Function.onFun List.Disjoint fun m => (unit.node m).children) :=
          ⟨fun _ _ hparents _ hn hn' => hparents hn' hn⟩
        exact hpairwise.forall hm' hm hne hchild' hchild
      · rintro rfl
        exact hchild

/-- The nodes of an arena make up a forest that is numbered in document order. -/
theorem inOrder_arena (elements : List Element) : (arena elements).InOrder := by
  have hwalk := (holds_arena elements).walk
  rw [← size_arena, ← List.range_eq_range'] at hwalk
  exact hwalk.inOrder

end Bindery.TranslationUnit
