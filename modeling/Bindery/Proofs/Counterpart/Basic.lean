import Bindery.Proofs.Binding.Drafts
import Mathlib.Data.List.Forall2

/-!
# Counterparts

A node of one translation unit has counterparts in another if the two agree in what they declare,
and what one of them leads to has its counterparts among what the other leads to. Numbers and ids
need not agree. Counterparts have the same qualified name: the ways outwards from them go side by
side, and end or come round alike.
-/

namespace Bindery.TranslationUnit

open Relation

variable {unit unit' : TranslationUnit} {R : NodeId → NodeId → Prop} {n m n' m' : NodeId}

/-- A relation of optional nodes may be read from right to left. -/
theorem optionRel_flip {found found' : Option NodeId} (h : Option.Rel R found found') :
    Option.Rel (flip R) found' found := by
  cases h with
  | none => exact .none
  | some hrelated => exact .some hrelated

/-- Optional nodes stay related if those that fail a test are left out, and related nodes fail it
together. -/
theorem optionRel_filter {p p' : NodeId → Bool} (hp : ∀ {n n'}, R n n' → p n = p' n')
    {found found' : Option NodeId} (h : Option.Rel R found found') :
    Option.Rel R (found.filter p) (found'.filter p') := by
  cases h with
  | none => exact .none
  | some hrelated =>
    rw [Option.filter_some, Option.filter_some, hp hrelated]
    split
    · exact .some hrelated
    · exact .none

/-- The node that an attribute leads to by its id. -/
def link? (unit : TranslationUnit) (key : String) (n : NodeId) : Option NodeId :=
  ((unit.node n).attribute? key).bind unit.byId?

/-- The scope of a node is what its context leads to, unless that is the global namespace. -/
theorem scope?_eq_filter (unit : TranslationUnit) (n : NodeId) :
    unit.scope? n = (unit.link? "context" n).filter fun scope => !unit.isGlobal scope := by
  unfold scope? link?
  cases (unit.node n).attribute? "context" with
  | none => rfl
  | some context =>
    cases hfound : unit.byId? context with
    | none => simp [hfound]
    | some scope =>
      simp only [Option.bind_eq_bind, Option.bind_some, hfound, Option.filter_some]
      cases unit.isGlobal scope <;> rfl

/-- The attributes whose values are ids. -/
def linkKeys : List String :=
  ["id", "context", "returns", "file", "members", "bases"]

/-- `R` relates nodes of one translation unit to nodes of another that say the same. -/
structure Counterparts (unit unit' : TranslationUnit) (R : NodeId → NodeId → Prop) : Prop where
  /-- They are of one kind. -/
  kind : ∀ {n n'}, R n n' → (unit.node n).kind = (unit'.node n').kind
  /-- Their attributes agree, but for ids. -/
  attribute? : ∀ {n n' key}, R n n' → key ∉ linkKeys →
    (unit.node n).attribute? key = (unit'.node n').attribute? key
  /-- Their children correspond, one by one. -/
  children : ∀ {n n'}, R n n' → List.Forall₂ R (unit.node n).children (unit'.node n').children
  /-- Their ids lead to nodes that correspond. -/
  link? : ∀ {n n' key}, R n n' → key ∈ ["context", "returns", "file"] →
    Option.Rel R (unit.link? key n) (unit'.link? key n')
  /-- The members that they list correspond. -/
  memberNodes : ∀ {n n'}, R n n' → List.Forall₂ R (unit.memberNodes n) (unit'.memberNodes n')
  /-- The bases that they list correspond. -/
  baseNodes : ∀ {n n'}, R n n' → List.Forall₂ R (unit.baseNodes n) (unit'.baseNodes n')
  /-- A scope has one counterpart at most. -/
  right_unique : ∀ {n m n' m'}, unit.InScope m n → R n n' → R n m' → n' = m'
  /-- A scope is the counterpart of one node at most. -/
  left_unique : ∀ {n m n' m'}, unit'.InScope m' n' → R n n' → R m n' → n = m

namespace Counterparts

/-- Counterparts are so the other way round. -/
theorem symm (h : Counterparts unit unit' R) : Counterparts unit' unit (flip R) where
  kind hn := (h.kind hn).symm
  attribute? hn hkey := (h.attribute? hn hkey).symm
  children hn := List.Forall₂.flip (h.children hn)
  link? hn hkey := optionRel_flip (h.link? hn hkey)
  memberNodes hn := List.Forall₂.flip (h.memberNodes hn)
  baseNodes hn := List.Forall₂.flip (h.baseNodes hn)
  right_unique := h.left_unique
  left_unique := h.right_unique

variable (h : Counterparts unit unit' R)
include h

/-- Counterparts have one name. -/
theorem name?_eq (hn : R n n') : (unit.node n).name? = (unit'.node n').name? :=
  h.attribute? hn (by decide)

/-- The global namespace has counterparts of its kind only. -/
theorem isGlobal_eq (hn : R n n') : unit.isGlobal n = unit'.isGlobal n' := by
  rw [isGlobal, isGlobal, Node.isGlobalNamespace, Node.isGlobalNamespace, h.kind hn, h.name?_eq hn]

/-- The scopes of counterparts are counterparts. -/
theorem scope? (hn : R n n') : Option.Rel R (unit.scope? n) (unit'.scope? n') := by
  rw [scope?_eq_filter, scope?_eq_filter]
  refine optionRel_filter (fun hscope => ?_) (h.link? hn (by decide))
  rw [h.isGlobal_eq hscope]

/-- A step outwards can be taken from a counterpart too. -/
theorem inScope (hn : R n n') (hstep : unit.InScope n m) :
    ∃ m', unit'.InScope n' m' ∧ R m m' := by
  have hscope := h.scope? hn
  rw [InScope] at hstep
  rw [hstep] at hscope
  generalize hfound : unit'.scope? n' = found at hscope
  cases hscope with
  | some hm => exact ⟨_, hfound, hm⟩

/-- A walk outwards can be made from a counterpart too. -/
theorem walk (hn : R n n') (hwalk : TransGen unit.InScope n m) :
    ∃ m', TransGen unit'.InScope n' m' ∧ R m m' := by
  induction hwalk with
  | single hstep =>
    obtain ⟨m', hstep', hm⟩ := h.inScope hn hstep
    exact ⟨m', .single hstep', hm⟩
  | tail _ hstep ih =>
    obtain ⟨passed, hwalk', hpassed⟩ := ih
    obtain ⟨m', hstep', hm⟩ := h.inScope hpassed hstep
    exact ⟨m', .tail hwalk' hstep', hm⟩

/-- The counterpart of a node on a circle lies on one. -/
theorem onCircle (hn : R n n') (hcircle : unit.OnCircle n) : unit'.OnCircle n' := by
  obtain ⟨m', hwalk, hback⟩ := h.walk hn hcircle
  obtain ⟨last, _, hlast⟩ := TransGen.tail'_iff.mp hcircle
  rwa [← h.right_unique hlast hn hback] at hwalk

/-- Counterparts lie on circles together. -/
theorem onCircle_iff (hn : R n n') : unit.OnCircle n ↔ unit'.OnCircle n' :=
  ⟨h.onCircle hn, h.symm.onCircle hn⟩

/-- Counterparts have the same qualified name. -/
theorem scopedName_eq {n n' : NodeId} (hn : R n n') : unit.scopedName n = unit'.scopedName n' := by
  have hname : (unit.node n).name = (unit'.node n').name := by
    rw [Node.name, Node.name, h.name?_eq hn]
  by_cases hglobal : unit.isGlobal n = true
  · have hglobal' : unit'.isGlobal n' = true := by rwa [← h.isGlobal_eq hn]
    rw [scopedName_of_isGlobal hglobal, scopedName_of_isGlobal hglobal']
  · have hlocal := Bool.eq_false_iff.mpr hglobal
    have hlocal' : unit'.isGlobal n' = false := by rwa [← h.isGlobal_eq hn]
    by_cases hcircle : unit.OnCircle n
    · have hcircle' := (h.onCircle_iff hn).mp hcircle
      rw [scopedName_of_onCircle hlocal hcircle, scopedName_of_onCircle hlocal' hcircle', hname]
    · have hcircle' := fun hback => hcircle ((h.onCircle_iff hn).mpr hback)
      have hscopes := h.scope? hn
      generalize hscope : unit.scope? n = found at hscopes
      generalize hscope' : unit'.scope? n' = found' at hscopes
      cases hscopes with
      | none =>
        rw [scopedName_of_scope?_eq_none hlocal hscope,
          scopedName_of_scope?_eq_none hlocal' hscope', hname]
      | some hrelated =>
        rw [scopedName_of_inScope hlocal hcircle hscope,
          scopedName_of_inScope hlocal' hcircle' hscope', scopedName_eq hrelated, hname]
termination_by unit.distance n
decreasing_by exact distance_lt hscope hcircle

end Counterparts

end Bindery.TranslationUnit
