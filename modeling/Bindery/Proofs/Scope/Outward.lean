import Bindery.TranslationUnit.Scope
import Mathlib.Data.Set.Card
import Mathlib.Logic.Relation

/-!
# The way outwards

Every node has at most one scope, so the walk outwards from a node is a single way. It either ends
at a node without a scope or leads into a circle that it never leaves. This file settles which
nodes a way passes, and defines the qualified name of a node by its scope alone, without any memory
of names that were worked out before.
-/

namespace Bindery.TranslationUnit

open Relation

variable {unit : TranslationUnit} {n m scope : NodeId}

/-- One step of the walk outwards. -/
def InScope (unit : TranslationUnit) (n scope : NodeId) : Prop :=
  unit.scope? n = some scope

/-- The walk outwards from `n` passes `m`. It passes `n` itself first of all. -/
abbrev Passes (unit : TranslationUnit) (n m : NodeId) : Prop :=
  ReflTransGen unit.InScope n m

/-- The walk outwards leads back to the node that it began at. -/
def OnCircle (unit : TranslationUnit) (n : NodeId) : Prop :=
  TransGen unit.InScope n n

/-- A walk has no choice where to go next. -/
theorem inScope_rightUnique (unit : TranslationUnit) : Relator.RightUnique unit.InScope := by
  intro n scope scope' h h'
  exact Option.some.inj (h.symm.trans h')

/-- The scope of a node on a circle exists, and the walk from it comes back. -/
theorem OnCircle.exists_scope (h : unit.OnCircle n) :
    ∃ scope, unit.InScope n scope ∧ unit.Passes scope n :=
  TransGen.head'_iff.mp h

/-- From every node that is passed after the start on a circle, the walk comes back to the start. -/
theorem OnCircle.passes_back (h : unit.OnCircle n) (hpass : unit.Passes n m) : unit.Passes m n := by
  induction hpass with
  | refl => exact .refl
  | @tail passed next _ hstep ih =>
    rcases ReflTransGen.cases_head ih with rfl | ⟨after, hafter, hback⟩
    · obtain ⟨scope, hscope, hback⟩ := h.exists_scope
      rwa [inScope_rightUnique unit hstep hscope]
    · rwa [inScope_rightUnique unit hstep hafter]

/-- Once on a circle, the walk stays on it. -/
theorem OnCircle.of_passes (h : unit.OnCircle n) (hpass : unit.Passes n m) : unit.OnCircle m :=
  TransGen.trans_right (h.passes_back hpass) (TransGen.trans_left h hpass)

/-- A node without a scope lies on no circle, nor does any node that leads to it. -/
theorem not_onCircle_of_passes (hpass : unit.Passes n m) (hend : unit.scope? m = none) :
    ¬unit.OnCircle n := by
  intro h
  obtain ⟨scope, hscope, _⟩ := (h.of_passes hpass).exists_scope
  rw [InScope, hend] at hscope
  cases hscope

/-- A walk passes only nodes of the unit, and its start. -/
theorem eq_or_lt_size_of_passes (h : unit.Passes n m) : m = n ∨ m < unit.size := by
  rcases ReflTransGen.cases_tail h with rfl | ⟨passed, _, hstep⟩
  · exact .inl rfl
  · exact .inr (lt_size_of_scope? hstep)

/-- The number of nodes that the walk outwards from a node passes. -/
noncomputable def distance (unit : TranslationUnit) (n : NodeId) : Nat :=
  {m | unit.Passes n m}.ncard

/-- A walk passes finitely many nodes. -/
theorem finite_passes (unit : TranslationUnit) (n : NodeId) : {m | unit.Passes n m}.Finite := by
  apply (Set.finite_lt_nat unit.size |>.insert n).subset
  intro m hm
  rcases eq_or_lt_size_of_passes hm with rfl | hlt
  · exact Set.mem_insert _ _
  · exact Set.mem_insert_of_mem _ hlt

/-- A step that is not one along a circle leaves fewer nodes to pass. -/
theorem distance_lt (hscope : unit.InScope n scope) (hcircle : ¬unit.OnCircle n) :
    unit.distance scope < unit.distance n := by
  apply Set.ncard_lt_ncard _ (finite_passes unit n)
  refine ⟨fun m hm => .head hscope hm, fun hsub => hcircle ?_⟩
  have hback : unit.Passes scope n := hsub ReflTransGen.refl
  exact .head' hscope hback

open Classical in
/-- The qualified name of a node. The global namespace has the empty one. A node on a circle and a
node without a scope are named as if they stood in the global namespace, and any other node is
named below its scope. -/
noncomputable def scopedName (unit : TranslationUnit) (n : NodeId) : String :=
  if unit.isGlobal n then ""
  else if _hcircle : unit.OnCircle n then "::" ++ (unit.node n).name
  else
    match _hscope : unit.scope? n with
    | none => "::" ++ (unit.node n).name
    | some scope => scopedName unit scope ++ "::" ++ (unit.node n).name
termination_by unit.distance n
decreasing_by exact distance_lt _hscope _hcircle

/-- The global namespace has the empty name. -/
theorem scopedName_of_isGlobal (h : unit.isGlobal n = true) : unit.scopedName n = "" := by
  rw [scopedName, if_pos h]

/-- A node on a circle is named as if it stood in the global namespace. -/
theorem scopedName_of_onCircle (hlocal : unit.isGlobal n = false) (h : unit.OnCircle n) :
    unit.scopedName n = "::" ++ (unit.node n).name := by
  rw [scopedName, if_neg (by simp [hlocal]), dif_pos h]

/-- A node without a scope is named as if it stood in the global namespace. -/
theorem scopedName_of_scope?_eq_none (hlocal : unit.isGlobal n = false)
    (h : unit.scope? n = none) : unit.scopedName n = "::" ++ (unit.node n).name := by
  rw [scopedName, if_neg (by simp [hlocal]), dif_neg (not_onCircle_of_passes .refl h)]
  split
  · rfl
  next scope hscope => rw [h] at hscope; cases hscope

/-- A node that lies on no circle is named below its scope. -/
theorem scopedName_of_inScope (hlocal : unit.isGlobal n = false) (hcircle : ¬unit.OnCircle n)
    (h : unit.InScope n scope) :
    unit.scopedName n = unit.scopedName scope ++ "::" ++ (unit.node n).name := by
  rw [scopedName, if_neg (by simp [hlocal]), dif_neg hcircle]
  split
  next hnone => rw [InScope, hnone] at h; cases h
  next found hfound => rw [Option.some.inj (hfound.symm.trans h)]

/-- A scope that the walk goes on to is not the global namespace. -/
theorem isGlobal_eq_false_of_inScope (h : unit.InScope n scope) : unit.isGlobal scope = false := by
  simp only [InScope, scope?, Option.bind_eq_bind, Option.bind_eq_some_iff] at h
  obtain ⟨context, _, found, _, hfound⟩ := h
  split at hfound
  · cases hfound
  next hlocal =>
    cases hfound
    simpa using hlocal

/-- A node that is not the global namespace is named by the nodes on a way towards it, the node
itself last. -/
theorem exists_outer_scopedName_eq (hlocal : unit.isGlobal n = false) :
    ∃ outer : List NodeId, unit.scopedName n =
      String.join ((outer ++ [n]).map fun m => "::" ++ (unit.node m).name) := by
  induction hdistance : unit.distance n using Nat.strong_induction_on generalizing n with
  | _ d ih =>
    by_cases hcircle : unit.OnCircle n
    · exact ⟨[], by rw [scopedName_of_onCircle hlocal hcircle]; simp [String.join]⟩
    · cases hscope : unit.scope? n with
      | none => exact ⟨[], by rw [scopedName_of_scope?_eq_none hlocal hscope]; simp [String.join]⟩
      | some scope =>
        obtain ⟨outer, houter⟩ := ih _ (hdistance ▸ distance_lt hscope hcircle)
          (isGlobal_eq_false_of_inScope hscope) rfl
        refine ⟨outer ++ [scope], ?_⟩
        rw [scopedName_of_inScope hlocal hcircle hscope, houter, List.map_append,
          String.join_append, String.append_assoc]
        simp [String.join]

end Bindery.TranslationUnit
