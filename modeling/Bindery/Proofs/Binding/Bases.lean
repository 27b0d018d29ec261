import Bindery.Proofs.Binding.Selection
import Bindery.Proofs.Text.Fields

/-!
# Bases and their outermost scopes

A base is bound if its qualified name leads through a selected namespace first. That name is put
together along the walk outwards, so what it leads through first is the name of the scope at which
the walk ends: the outermost one, or the first one on a circle. The names of inner scopes do not
matter, whatever they look like.
-/

namespace Bindery

namespace TranslationUnit

open Binding

variable {unit : TranslationUnit} {n scope : NodeId}

open Classical in
/-- The scope in which a node stands outermost. The walk outwards goes on to it, and ends there for
want of a further scope, or because it has come to a circle. A node that has no scope or lies on a
circle is its own outermost scope. -/
noncomputable def outermost (unit : TranslationUnit) (n : NodeId) : NodeId :=
  if _hcircle : unit.OnCircle n then n
  else
    match _hscope : unit.scope? n with
    | none => n
    | some scope => outermost unit scope
termination_by unit.distance n
decreasing_by exact distance_lt _hscope _hcircle

/-- A node on a circle is its own outermost scope. -/
theorem outermost_of_onCircle (h : unit.OnCircle n) : unit.outermost n = n := by
  rw [outermost, dif_pos h]

/-- A node without a scope is its own outermost scope. -/
theorem outermost_of_scope?_eq_none (h : unit.scope? n = none) : unit.outermost n = n := by
  rw [outermost, dif_neg (not_onCircle_of_passes .refl h)]
  split
  · rfl
  next scope hscope => rw [h] at hscope; cases hscope

/-- A node off every circle has its outermost scope in common with the scope that it stands in. -/
theorem outermost_of_inScope (hcircle : ¬unit.OnCircle n) (h : unit.InScope n scope) :
    unit.outermost n = unit.outermost scope := by
  rw [outermost, dif_neg hcircle]
  split
  next hnone => rw [InScope, hnone] at h; cases h
  next found hfound => rw [Option.some.inj (hfound.symm.trans h)]

/-- A qualified name begins with the name of the outermost scope, and goes on from scope to
scope. -/
theorem exists_inner_scopedName_eq (hlocal : unit.isGlobal n = false) :
    ∃ inner : List NodeId, unit.scopedName n =
      "::" ++ (unit.node (unit.outermost n)).name ++
        String.join (inner.map fun m => "::" ++ (unit.node m).name) := by
  induction hdistance : unit.distance n using Nat.strong_induction_on generalizing n with
  | _ d ih =>
    by_cases hcircle : unit.OnCircle n
    · refine ⟨[], ?_⟩
      rw [scopedName_of_onCircle hlocal hcircle, outermost_of_onCircle hcircle]
      exact (String.append_empty).symm
    · cases hscope : unit.scope? n with
      | none =>
        refine ⟨[], ?_⟩
        rw [scopedName_of_scope?_eq_none hlocal hscope, outermost_of_scope?_eq_none hscope]
        exact (String.append_empty).symm
      | some scope =>
        obtain ⟨inner, hinner⟩ := ih _ (hdistance ▸ distance_lt hscope hcircle)
          (isGlobal_eq_false_of_inScope hscope) rfl
        refine ⟨inner ++ [n], ?_⟩
        rw [scopedName_of_inScope hlocal hcircle hscope, outermost_of_inScope hcircle hscope, hinner,
          List.map_append, String.join_append, String.append_assoc, String.append_assoc]
        simp [String.join]

/-- A node stands inside one of the given namespaces just in case they name its outermost scope, if
the name of that scope has no colon. -/
theorem isInside_scopedName (hlocal : unit.isGlobal n = false) (namespaces : List String)
    (hcolon : ':' ∉ (unit.node (unit.outermost n)).name.toList) :
    isInside namespaces (unit.scopedName n) =
      namespaces.contains (unit.node (unit.outermost n)).name := by
  obtain ⟨inner, hinner⟩ := exists_inner_scopedName_eq hlocal
  have hname : (unit.scopedName n).toList =
      ':' :: ':' :: ((unit.node (unit.outermost n)).name.toList ++
        inner.flatMap fun m => ':' :: ':' :: (unit.node m).name.toList) := by
    simp [hinner, List.flatMap_map]
  have hsegments : ∃ later, Text.segments (unit.scopedName n).toList =
      [] :: (unit.node (unit.outermost n)).name.toList :: later := by
    rw [hname, Text.segments]
    cases inner with
    | nil => exact ⟨[], by rw [List.flatMap_nil, List.append_nil, Text.segments_eq_singleton hcolon]⟩
    | cons m rest =>
      rw [List.flatMap_cons, List.cons_append, List.cons_append,
        Text.segments_append_cons_cons hcolon]
      exact ⟨_, rfl⟩
  obtain ⟨later, hsegments⟩ := hsegments
  rw [isInside, hsegments]
  simp only [String.ofList_toList]

/-- What an entry of a list of bases stands for: the class that its id leads to, if that has a name
that may be bound and the given namespaces name its outermost scope. -/
noncomputable def baseOf (unit : TranslationUnit) (namespaces : List String) (token : String) :
    Option NodeId :=
  (unit.byId? (baseId token)).filter fun base =>
    (unit.node base).kind.isClassLike && isBindable (unit.node base).name? &&
      namespaces.contains (unit.node (unit.outermost base)).name

/-- Whatever was asked before, the bases of a class are those that the entries of its list stand
for, each entry on its own and in the order of the list. The outermost scopes of the classes that it
lists must have names without colons. Scopes further in may have any names. -/
theorem resolveBases_eq_filterMap (unit : TranslationUnit) (namespaces : List String) (n : NodeId)
    (hcolon : ∀ base ∈ unit.baseNodes n, ':' ∉ (unit.node (unit.outermost base)).name.toList)
    (journal : Array Log.Notice) (asked : List Question) :
    ((unit.resolveBases namespaces n).run (unit.sessionAfter journal asked)).1 =
      ((unit.node n).idList "bases").filterMap (unit.baseOf namespaces) := by
  rw [(answers_resolveBases unit namespaces n _ (sound_sessionAfter unit journal asked)).1,
    boundBases, baseNodes, List.filter_filterMap]
  refine List.filterMap_congr fun token htoken => ?_
  rw [baseOf, byIdOfKind?, Option.filter_filter]
  cases hfound : unit.byId? (baseId token) with
  | none => rfl
  | some base =>
    rw [Option.filter_some, Option.filter_some]
    cases hkind : (unit.node base).kind.isClassLike with
    | false => simp only [Bool.false_and]
    | true =>
      have hmem : base ∈ unit.baseNodes n := by
        refine List.mem_filterMap.mpr ⟨token, htoken, ?_⟩
        rw [byIdOfKind?, hfound, Option.filter_some, if_pos hkind]
      have hinside := isInside_scopedName (isGlobal_eq_false_of_kind (.inr hkind)) namespaces
        (hcolon base hmem)
      simp only [isBoundBase, hinside, Bool.true_and]

/-- A class with three bases, one of them listed twice: a structure inside of a class template in a
namespace, a class that nothing is declared for, and a class that stands in itself. -/
def nestedBase : TranslationUnit where
  nodes := #[⟨.nameSpace, [("id", "_1"), ("name", "::")], []⟩,
    ⟨.nameSpace, [("id", "_2"), ("name", "a"), ("context", "_1")], []⟩,
    ⟨.classType, [("id", "_3"), ("name", "T<b::c>"), ("context", "_2")], []⟩,
    ⟨.structType, [("id", "_4"), ("name", "K"), ("context", "_3")], []⟩,
    ⟨.classType, [("id", "_5"), ("name", "L"), ("context", "_5")], []⟩,
    ⟨.classType, [("id", "_6"), ("context", "_2"),
      ("bases", "virtual:private:_4 _404 public:_5 _4")], []⟩]
  top := [0, 1, 2, 3, 4, 5]

/-- The structure is a base for its outermost namespace, and the class that stands in itself for its
own name. -/
theorem resolveBases_nestedBase :
    (∀ base ∈ nestedBase.baseNodes 5,
        ':' ∉ (nestedBase.node (nestedBase.outermost base)).name.toList) ∧
      ((nestedBase.node 5).idList "bases").filterMap (nestedBase.baseOf ["a"]) = [3, 3] ∧
      ((nestedBase.node 5).idList "bases").filterMap (nestedBase.baseOf ["L", "b"]) = [4] := by
  have hnested : nestedBase.outermost 3 = 1 := by
    have hstep : nestedBase.scope? 3 = some 2 := by decide
    have hstep' : nestedBase.scope? 2 = some 1 := by decide
    have hend : nestedBase.scope? 1 = none := by decide
    have hpass : nestedBase.Passes 2 1 := .single hstep'
    rw [outermost_of_inScope (not_onCircle_of_passes (hpass.head hstep) hend) hstep,
      outermost_of_inScope (not_onCircle_of_passes hpass hend) hstep',
      outermost_of_scope?_eq_none hend]
  have hitself : nestedBase.outermost 4 = 4 := by
    have hstep : nestedBase.scope? 4 = some 4 := by decide
    exact outermost_of_onCircle (.single hstep)
  have hcolon : ∀ base ∈ nestedBase.baseNodes 5,
      ':' ∉ (nestedBase.node (nestedBase.outermost base)).name.toList := by
    have hbases : nestedBase.baseNodes 5 = [3, 4, 3] := by decide
    rw [hbases]
    simp only [List.forall_mem_cons, hnested, hitself]
    decide
  refine ⟨hcolon, ?_, ?_⟩
  · exact (resolveBases_eq_filterMap nestedBase ["a"] 5 hcolon #[] []).symm.trans (by decide +kernel)
  · exact (resolveBases_eq_filterMap nestedBase ["L", "b"] 5 hcolon #[] []).symm.trans (by decide +kernel)

end TranslationUnit

end Bindery
