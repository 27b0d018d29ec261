import Bindery.Proofs.Scope.Outward
import Mathlib.Data.List.Chain

/-!
# Ways and where they end

A walk outwards lays its way node by node until there is no scope to go on to, or the scope has a
name, or the scope lies on the way already. `climb_spec` says what the walk returns; the other
statements say which nodes of such a way lie on a circle. A way that meets a
circle consists of the whole circle, outermost, and of nodes off every circle behind it.
-/

namespace Bindery.TranslationUnit

open Relation

variable {unit : TranslationUnit} {names : Std.TreeMap NodeId String} {n m entry : NodeId}
  {way circle : List NodeId}

/-- Each node of a list stands in the scope before it. -/
def Linked (unit : TranslationUnit) (way : List NodeId) : Prop :=
  way.IsChain fun outer inner => unit.InScope inner outer

/-- What the walk keeps true of the way behind it. -/
structure IsWay (unit : TranslationUnit) (names : Std.TreeMap NodeId String)
    (way : List NodeId) : Prop where
  /-- Each node stands in the scope before it. -/
  linked : unit.Linked way
  /-- No node is met twice. -/
  nodup : way.Nodup
  /-- No node of the way has a name yet. -/
  unnamed : ∀ m ∈ way, m ∉ names
  /-- The global namespace is not on the way. -/
  declared : ∀ m ∈ way, unit.isGlobal m = false

/-- The reason for which a way that arrived at its head does not go on. -/
inductive Ends (unit : TranslationUnit) (names : Std.TreeMap NodeId String) :
    List NodeId → Stop → Prop
  | outermost {n : NodeId} {inner : List NodeId} (hscope : unit.scope? n = none) :
      Ends unit names (n :: inner) .outermost
  | named {n scope : NodeId} {qualified : String} {inner : List NodeId}
      (hscope : unit.InScope n scope) (hname : names[scope]? = some qualified) :
      Ends unit names (n :: inner) (.named qualified)
  | cycle {n entry : NodeId} {inner : List NodeId} (hscope : unit.InScope n entry)
      (hmem : entry ∈ n :: inner) : Ends unit names (n :: inner) (.cycle entry)

/-- One more step keeps a way a way. -/
theorem IsWay.cons {inner : List NodeId} (hway : unit.IsWay names (m :: inner))
    (hscope : unit.InScope m n) (hname : names[n]? = none) (hnew : n ∉ m :: inner) :
    unit.IsWay names (n :: m :: inner) := by
  have hunnamed : n ∉ names := by
    rw [Std.TreeMap.mem_iff_isSome_getElem?, hname]
    exact Bool.false_ne_true
  exact {
    linked := List.isChain_cons_cons.mpr ⟨hscope, hway.linked⟩
    nodup := List.nodup_cons.mpr ⟨hnew, hway.nodup⟩
    unnamed := List.forall_mem_cons.mpr ⟨hunnamed, hway.unnamed⟩
    declared := List.forall_mem_cons.mpr ⟨isGlobal_eq_false_of_inScope hscope, hway.declared⟩ }

/-- The walk extends a way to a way, and stops for the reason that it gives. -/
theorem climb_spec {inner : List NodeId} (hway : unit.IsWay names (n :: inner)) :
    unit.IsWay names (unit.climb names (n :: inner) n).1 ∧
      (n :: inner) <:+ (unit.climb names (n :: inner) n).1 ∧
      unit.Ends names (unit.climb names (n :: inner) n).1 (unit.climb names (n :: inner) n).2 := by
  generalize hstart : n :: inner = way at hway ⊢
  fun_induction unit.climb names way n generalizing inner with
  | case1 way n hscope =>
    subst hstart
    exact ⟨hway, List.suffix_refl _, .outermost hscope⟩
  | case2 way n scope hscope qualified hname =>
    subst hstart
    exact ⟨hway, List.suffix_refl _, .named hscope hname⟩
  | case3 way n scope hscope hname hseen =>
    subst hstart
    exact ⟨hway, List.suffix_refl _, .cycle hscope hseen⟩
  | case4 way n scope hscope hname hseen ih =>
    subst hstart
    obtain ⟨hresult, hsuffix, hends⟩ := ih rfl (hway.cons hscope hname hseen)
    exact ⟨hresult, (List.suffix_cons _ _).trans hsuffix, hends⟩

/-- From every node of a way, the walk outwards passes its head. -/
theorem Linked.passes_head {inner : List NodeId} (hlinked : unit.Linked (n :: inner))
    (hmem : m ∈ n :: inner) : unit.Passes m n := by
  induction inner generalizing n with
  | nil => rw [List.mem_singleton.mp hmem]
  | cons next inner ih =>
    obtain ⟨hstep, hrest⟩ := List.isChain_cons_cons.mp hlinked
    rcases List.mem_cons.mp hmem with rfl | hmem
    · exact .refl
    · exact (ih hrest hmem).tail hstep

/-- Every node of a way but its head stands in a scope that is on the way. -/
theorem Linked.exists_inScope (hlinked : unit.Linked way) (hmem : m ∈ way.tail) :
    ∃ scope ∈ way, unit.InScope m scope := by
  induction way with
  | nil => cases hmem
  | cons n inner ih =>
    cases inner with
    | nil => cases hmem
    | cons next inner =>
      obtain ⟨hstep, hrest⟩ := List.isChain_cons_cons.mp hlinked
      rcases List.mem_cons.mp hmem with rfl | hmem
      · exact ⟨n, List.mem_cons_self, hstep⟩
      · obtain ⟨scope, hscope, hin⟩ := ih hrest hmem
        exact ⟨scope, List.mem_cons_of_mem _ hscope, hin⟩

/-- A set of nodes that holds the scope of each of them. -/
def ClosedOutward (unit : TranslationUnit) (nodes : NodeId → Prop) : Prop :=
  ∀ ⦃n scope⦄, nodes n → unit.InScope n scope → nodes scope

/-- The walk does not leave a set that holds the scope of each of its nodes. -/
theorem ClosedOutward.of_passes {nodes : NodeId → Prop} (hclosed : unit.ClosedOutward nodes)
    (hpass : unit.Passes n m) (hn : nodes n) : nodes m := by
  induction hpass with
  | refl => exact hn
  | tail _ hstep ih => exact hclosed ih hstep

/-- A way whose head has no scope lies off every circle. -/
theorem Linked.not_onCircle_of_outermost {inner : List NodeId} (hlinked : unit.Linked (n :: inner))
    (hscope : unit.scope? n = none) (hmem : m ∈ n :: inner) : ¬unit.OnCircle m :=
  not_onCircle_of_passes (hlinked.passes_head hmem) hscope

/-- From the last node of a way, the walk outwards passes the whole way. -/
theorem Linked.passes_of_getLast? (hlinked : unit.Linked way) (hlast : way.getLast? = some entry)
    (hmem : m ∈ way) : unit.Passes entry m := by
  induction way with
  | nil => cases hmem
  | cons n inner ih =>
    rcases List.mem_cons.mp hmem with rfl | hmem
    · exact hlinked.passes_head (List.mem_of_getLast? hlast)
    · have hne : inner ≠ [] := List.ne_nil_of_mem hmem
      rw [List.getLast?_cons_of_ne_nil hne] at hlast
      exact ih hlinked.tail hlast hmem

/-- Where the head of a way stands in the scope of its last node, the whole way is a circle. -/
theorem Linked.onCircle {inner : List NodeId} (hlinked : unit.Linked (n :: inner))
    (hlast : (n :: inner).getLast? = some entry) (hscope : unit.InScope n entry)
    (hmem : m ∈ n :: inner) : unit.OnCircle m := by
  have hout : unit.Passes m n := hlinked.passes_head hmem
  have hback : unit.Passes entry m := hlinked.passes_of_getLast? hlast hmem
  exact TransGen.trans_right hout (.head' hscope hback)

/-- A way that is a circle holds the scope of each of its nodes. -/
theorem Linked.closedOutward {inner : List NodeId} (hlinked : unit.Linked (n :: inner))
    (hlast : (n :: inner).getLast? = some entry) (hscope : unit.InScope n entry) :
    unit.ClosedOutward (· ∈ n :: inner) := by
  intro m scope hmem hstep
  rcases List.mem_cons.mp hmem with rfl | hmem
  · rw [inScope_rightUnique unit hstep hscope]
    exact List.mem_of_getLast? hlast
  · obtain ⟨found, hfound, hin⟩ := hlinked.exists_inScope hmem
    rwa [inScope_rightUnique unit hstep hin]

/-- A node that leads into a circle without being one of its nodes lies on no circle. -/
theorem not_onCircle_of_passes_closed {nodes : NodeId → Prop} (hclosed : unit.ClosedOutward nodes)
    (hpass : unit.Passes m entry) (hentry : nodes entry) (hm : ¬nodes m) : ¬unit.OnCircle m :=
  fun hcircle => hm (hclosed.of_passes (hcircle.passes_back hpass) hentry)

end Bindery.TranslationUnit
