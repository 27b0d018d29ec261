import Bindery.Proofs.Counterpart.Generate
import Bindery.Proofs.Counterpart.SameElement

/-!
# The order of a document

Code is generated in document order, but only the order of namespaces, of enumerations and of
classes counts. Wherever all other elements stand, and however the three sorts are mixed with each
other, the result is the same.
-/

namespace Bindery.TranslationUnit

open Binding
open Markup.Document (declaration)

variable {unit unit' : TranslationUnit} {elements elements' : List Element} {n n' : NodeId}
  {accept : NodeKind → Bool}

/-- The nodes at the top of an accepted kind. -/
def topOfKind (unit : TranslationUnit) (accept : NodeKind → Bool) : List NodeId :=
  unit.top.filter fun n => accept (unit.node n).kind

/-- If two documents have the same elements of a kind in the same order, the nodes of that kind show
the same elements one by one. -/
theorem forall₂_topOfKind (hshows : List.Forall₂ unit.Shows unit.top elements)
    (hshows' : List.Forall₂ unit'.Shows unit'.top elements')
    (horder : elements.filter (fun e => accept e.kind) =
      elements'.filter fun e => accept e.kind) :
    List.Forall₂ (unit.SameElement unit') (unit.topOfKind accept) (unit'.topOfKind accept) := by
  have hkind (unit : TranslationUnit) : ∀ n e, unit.Shows n e →
      (accept (unit.node n).kind = true ↔ accept e.kind = true) :=
    fun n e hn => by rw [hn.kind_eq]
  have hfiltered := List.rel_filter (hkind unit) hshows
  have hfiltered' := List.rel_filter (hkind unit') hshows'
  rw [← horder] at hfiltered'
  exact forall₂_sameElement hfiltered hfiltered'

/-- What is declared in a scope is found among the nodes of its kind. -/
theorem declaredIn_eq_filter (unit : TranslationUnit) (id : String) (accept : NodeKind → Bool) :
    unit.declaredIn id accept =
      (unit.topOfKind accept).filter fun n => (unit.node n).attribute? "context" == some id := by
  rw [declaredIn, topOfKind, List.filter_filter]
  exact List.filter_congr fun n _ => Bool.and_comm _ _

/-- The first global namespace is found among the namespaces. -/
theorem globalNamespace?_eq_find? (unit : TranslationUnit) :
    unit.globalNamespace? = (unit.topOfKind (· == .nameSpace)).find? unit.isGlobal := by
  rw [globalNamespace?, topOfKind, List.find?_filter]
  refine congrArg (unit.top.find? ·) (funext fun n => ?_)
  rw [Bool.eq_iff_iff]
  simp [isGlobal, Node.isGlobalNamespace]

section SameOrder

variable (hsame : List.Forall₂ (unit.SameElement unit') (unit.topOfKind accept)
  (unit'.topOfKind accept))
include hsame

/-- The declarations of one kind in a scope show the same elements one by one. -/
theorem forall₂_declaredIn (id : String) : List.Forall₂ (unit.SameElement unit')
    (unit.declaredIn id accept) (unit'.declaredIn id accept) := by
  rw [declaredIn_eq_filter, declaredIn_eq_filter]
  exact forall₂_filter (fun hn => by rw [hn.attribute?_eq]) hsame

/-- The declarations of one kind in nodes of the same element show the same elements one by one. -/
theorem forall₂_membersOf (hn : unit.SameElement unit' n n') :
    List.Forall₂ (unit.SameElement unit') (unit.membersOf n accept)
      (unit'.membersOf n' accept) := by
  have hid : (unit.node n).id? = (unit'.node n').id? := hn.attribute?_eq "id"
  rw [membersOf, membersOf, hid]
  cases (unit'.node n').id? with
  | none => exact .nil
  | some id => exact forall₂_declaredIn hsame id

end SameOrder

section SameNamespaces

variable (hsame : List.Forall₂ (unit.SameElement unit') (unit.topOfKind (· == .nameSpace))
  (unit'.topOfKind (· == .nameSpace)))
include hsame

/-- The first global namespace has the same id. -/
theorem globalId?_eq : unit.globalId? = unit'.globalId? := by
  have hglobal {numbers numbers' : List NodeId}
      (h : List.Forall₂ (unit.SameElement unit') numbers numbers') :
      Option.Rel (unit.SameElement unit') (numbers.find? unit.isGlobal)
        (numbers'.find? unit'.isGlobal) := by
    induction h with
    | nil => exact .none
    | @cons n n' _ _ hn _ ih =>
      have hagree : unit.isGlobal n = unit'.isGlobal n' := by
        rw [isGlobal, isGlobal, Node.isGlobalNamespace, Node.isGlobalNamespace, hn.kind_eq,
          Node.name?, Node.name?, hn.attribute?_eq]
      rw [List.find?_cons, List.find?_cons, hagree]
      split
      · exact .some hn
      · exact ih
  have hfound := hglobal hsame
  rw [← globalNamespace?_eq_find?, ← globalNamespace?_eq_find?] at hfound
  have helim (unit : TranslationUnit) : unit.globalId? =
      unit.globalNamespace?.elim none fun n => (unit.node n).id? := by
    unfold globalId?
    cases unit.globalNamespace? <;> rfl
  rw [helim, helim]
  exact elim_eq_of_optionRel (fun hn => hn.attribute?_eq "id") hfound

/-- The selected namespaces show the same elements one by one. -/
theorem forall₂_selectedNamespaces (options : Options) : List.Forall₂ (unit.SameElement unit')
    (unit.selectedNamespaces options) (unit'.selectedNamespaces options) := by
  refine forall₂_filter (fun hn => ?_) ?_
  · rw [Node.name, Node.name, Node.name?, Node.name?, hn.attribute?_eq]
  rw [topNamespaces, topNamespaces, globalId?_eq hsame]
  cases unit'.globalId? with
  | none => exact .nil
  | some id => exact forall₂_declaredIn hsame id

end SameNamespaces

/-- The order of a document counts for namespaces, for enumerations and for classes, and for nothing
else. If the elements of two documents are the same up to order, with distinct ids, and each of the
three sorts stands in the same order in both, then the code, the report and the next number are the
same, whatever was asked before. -/
theorem generate_eq_of_perm {text text' : String} (htext : ofText text = .ok unit)
    (htext' : ofText text' = .ok unit') (hids : unit.DistinctIds) (hids' : unit'.DistinctIds)
    (hshows : List.Forall₂ unit.Shows unit.top elements)
    (hshows' : List.Forall₂ unit'.Shows unit'.top elements') (hperm : elements.Perm elements')
    (hnamespaces : elements.filter (fun e => e.kind == .nameSpace) =
      elements'.filter fun e => e.kind == .nameSpace)
    (henumerations : elements.filter (fun e => e.kind == .enumeration) =
      elements'.filter fun e => e.kind == .enumeration)
    (hclasses : elements.filter (fun e => e.kind.isClassLike) =
      elements'.filter fun e => e.kind.isClassLike)
    (base : Option Path) (file : Path) (options : Options) (counter : Counter)
    (journal journal' : Array Log.Notice) (asked asked' : List Question) :
    ((unit.generate base file options counter).run (unit.sessionAfter journal asked)).1 =
      ((unit'.generate base file options counter).run (unit'.sessionAfter journal' asked')).1 := by
  obtain ⟨_, rfl, -⟩ := exists_elements htext
  obtain ⟨_, rfl, -⟩ := exists_elements htext'
  obtain rfl := shows_unique (shows_arena _) hshows
  obtain rfl := shows_unique (shows_arena _) hshows'
  have hsame : List.Forall₂ _ (topOfKind _ (· == .nameSpace)) (topOfKind _ (· == .nameSpace)) :=
    forall₂_topOfKind hshows hshows' hnamespaces
  exact (counterparts_sameElement hids hids' hperm).generate_eq base file options counter
    (forall₂_selectedNamespaces hsame options)
    (fun hn _ => forall₂_membersOf (forall₂_topOfKind hshows hshows' henumerations) hn)
    (fun hn _ => forall₂_membersOf (forall₂_topOfKind hshows hshows' hclasses) hn)
    journal journal' asked asked'

/-- A structure of a namespace, behind a data member. -/
def memberFirst : Markup.Document :=
  .flat [declaration "Field" "_4" "x" "_3", declaration "Namespace" "_1" "::" "",
    declaration "Namespace" "_2" "a" "_1", declaration "Struct" "_3" "S" "_2"]

/-- The same structure, before the data member. -/
def memberLast : Markup.Document :=
  .flat [declaration "Namespace" "_1" "::" "", declaration "Namespace" "_2" "a" "_1",
    declaration "Struct" "_3" "S" "_2", declaration "Field" "_4" "x" "_3"]

/-- It does not count where the data member stands. -/
theorem generate_memberFirst_eq :
    (((arena memberFirst.elements).generate (some ⟨"/"⟩) ⟨"a.hh"⟩ ⟨["a"], none, "bind_"⟩
        ⟨1001⟩).run ((arena memberFirst.elements).sessionAfter #[] [])).1 =
      (((arena memberLast.elements).generate (some ⟨"/"⟩) ⟨"a.hh"⟩ ⟨["a"], none, "bind_"⟩
        ⟨1001⟩).run ((arena memberLast.elements).sessionAfter #[] [])).1 := by
  have hperm : memberFirst.elements.Perm memberLast.elements :=
    (List.perm_append_singleton _ _).symm
  exact generate_eq_of_perm (ofText_text memberFirst (by decide)) (ofText_text memberLast (by decide))
    (distinctIds_of_nodup (by decide)) (distinctIds_of_nodup (by decide)) (shows_arena _)
    (shows_arena _) hperm rfl rfl rfl _ _ _ _ _ _ _ _

end Bindery.TranslationUnit
