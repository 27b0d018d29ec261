import Bindery.Proofs.Document.RoundTrip
import Bindery.Proofs.Counterpart.Basic
import Bindery.Proofs.Scope.Ids

/-!
# The same elements in another order

Two documents of the same elements number them differently. `SameElement` relates the nodes at which
the two translation units show one tree. Where ids are distinct these are counterparts: an id is
answered by nodes of the same element in both, wherever the element stands.
-/

namespace Bindery.TranslationUnit

open Element

variable {unit unit' : TranslationUnit} {elements elements' : List Element} {n n' : NodeId}

/-- Two nodes show the same tree. -/
def SameElement (unit unit' : TranslationUnit) (n n' : NodeId) : Prop :=
  ∃ e, unit.Shows n e ∧ unit'.Shows n' e

/-- What a node that shows an element declares. -/
theorem Shows.kind_eq {e : Element} (h : unit.Shows n e) : (unit.node n).kind = e.kind := by
  cases h with
  | intro _ hkind _ _ => exact hkind

/-- Nodes of the same element are of the same kind. -/
theorem SameElement.kind_eq (h : unit.SameElement unit' n n') :
    (unit.node n).kind = (unit'.node n').kind := by
  obtain ⟨e, hn, hn'⟩ := h
  rw [hn.kind_eq, hn'.kind_eq]

/-- Nodes of the same element have the same attributes. -/
theorem SameElement.attribute?_eq (h : unit.SameElement unit' n n') (key : String) :
    (unit.node n).attribute? key = (unit'.node n').attribute? key := by
  obtain ⟨e, hn, hn'⟩ := h
  rw [Node.attribute?, Node.attribute?, hn.node_eq.2.1, hn'.node_eq.2.1]

/-- Nodes of the same element may be named in the other order. -/
theorem SameElement.symm (h : unit.SameElement unit' n n') : unit'.SameElement unit n' n := by
  obtain ⟨e, hn, hn'⟩ := h
  exact ⟨e, hn', hn⟩

/-- Lists of nodes that show the same trees. -/
theorem forall₂_sameElement {numbers numbers' : List NodeId}
    (h : List.Forall₂ unit.Shows numbers elements)
    (h' : List.Forall₂ unit'.Shows numbers' elements) :
    List.Forall₂ (unit.SameElement unit') numbers numbers' := by
  induction h generalizing numbers' with
  | nil =>
    cases h'
    exact .nil
  | cons hn _ ih =>
    cases h' with
    | cons hn' hrest' => exact .cons ⟨_, hn, hn'⟩ (ih hrest')

/-- The children of nodes of the same element show the same trees. -/
theorem SameElement.children (h : unit.SameElement unit' n n') :
    List.Forall₂ (unit.SameElement unit') (unit.node n).children (unit'.node n').children := by
  obtain ⟨e, hn, hn'⟩ := h
  exact forall₂_sameElement hn.node_eq.2.2 hn'.node_eq.2.2

/-- Documents of the same trees in another order have the same elements. -/
theorem subset_of_perm (hperm : elements.Perm elements') :
    subtreesAll elements ⊆ subtreesAll elements' := by
  intro e he
  obtain ⟨root, hroot, hnested⟩ := mem_subtreesAll.mp he
  exact mem_subtreesAll.mpr ⟨root, hperm.mem_iff.mp hroot, hnested⟩

/-- What answers to an id in one document, answers to it in the other. -/
theorem exists_byId?_eq_some (hids' : (arena elements').DistinctIds)
    (hsub : subtreesAll elements ⊆ subtreesAll elements') {id : String}
    (hfound : (arena elements).byId? id = some n) :
    ∃ n', (arena elements').byId? id = some n' ∧
      (arena elements).SameElement (arena elements') n n' := by
  obtain ⟨e, he, hn⟩ := exists_shows_arena (lt_size_of_byId? hfound)
  obtain ⟨n', hn'⟩ := exists_node_arena (hsub he)
  have hsame : (arena elements).SameElement (arena elements') n n' := ⟨e, hn, hn'⟩
  have hid : ((arena elements').node n').id? = some id := by
    rw [← id?_of_byId? hfound]
    exact (hsame.attribute?_eq "id").symm
  exact ⟨n', hids'.byId?_eq_some hid, hsame⟩

/-- An id is answered by nodes of the same element, or by none in both documents. -/
theorem optionRel_byId? (hids : (arena elements).DistinctIds)
    (hids' : (arena elements').DistinctIds) (hperm : elements.Perm elements') (id : String) :
    Option.Rel ((arena elements).SameElement (arena elements')) ((arena elements).byId? id)
      ((arena elements').byId? id) := by
  cases hfound : (arena elements).byId? id with
  | some n =>
    obtain ⟨n', hfound', hsame⟩ := exists_byId?_eq_some hids' (subset_of_perm hperm) hfound
    rw [hfound']
    exact .some hsame
  | none =>
    cases hfound' : (arena elements').byId? id with
    | none => exact .none
    | some n' =>
      obtain ⟨n, hback, _⟩ := exists_byId?_eq_some hids (subset_of_perm hperm.symm) hfound'
      rw [hfound] at hback
      cases hback

/-- A scope has an id. -/
theorem exists_id_of_inScope {m : NodeId} (h : unit.InScope m n) :
    ∃ id, (unit.node n).id? = some id := by
  simp only [InScope, scope?, Option.bind_eq_bind, Option.bind_eq_some_iff] at h
  obtain ⟨id, _, found, hfound, hscope⟩ := h
  split at hscope
  · cases hscope
  · cases hscope
    exact ⟨id, id?_of_byId? hfound⟩

/-- Where ids are distinct, a scope shows the same element as one other node at most. -/
theorem SameElement.right_unique (hids' : unit'.DistinctIds) {m m' : NodeId}
    (hscope : unit.InScope m n) (h : unit.SameElement unit' n n')
    (h' : unit.SameElement unit' n m') : n' = m' := by
  obtain ⟨id, hid⟩ := exists_id_of_inScope hscope
  refine hids' n' m' id ?_ ?_
  · exact (h.attribute?_eq "id").symm.trans hid
  · exact (h'.attribute?_eq "id").symm.trans hid

/-- Ids that are answered alike one by one, are answered alike as a list. -/
theorem forall₂_filterMap {R : NodeId → NodeId → Prop} {answer answer' : String → Option NodeId}
    (h : ∀ id, Option.Rel R (answer id) (answer' id)) (ids : List String) :
    List.Forall₂ R (ids.filterMap answer) (ids.filterMap answer') := by
  have hids : List.Forall₂ (· = ·) ids ids := List.forall₂_refl ids
  exact List.rel_filterMap (fun id _ heq => heq ▸ h id) hids

/-- In two documents of the same elements with distinct ids, nodes of the same element are
counterparts. -/
theorem counterparts_sameElement (hids : (arena elements).DistinctIds)
    (hids' : (arena elements').DistinctIds) (hperm : elements.Perm elements') :
    Counterparts (arena elements) (arena elements')
      ((arena elements).SameElement (arena elements')) where
  kind hn := hn.kind_eq
  attribute? hn _ := hn.attribute?_eq _
  children hn := hn.children
  link? {n n' key} hn _ := by
    rw [link?, link?, hn.attribute?_eq]
    cases ((arena elements').node n').attribute? key with
    | none => exact .none
    | some id => exact optionRel_byId? hids hids' hperm id
  memberNodes hn := by
    rw [memberNodes, memberNodes, Node.idList, Node.idList, hn.attribute?_eq]
    exact forall₂_filterMap (optionRel_byId? hids hids' hperm) _
  baseNodes hn := by
    rw [baseNodes, baseNodes, Node.idList, Node.idList, hn.attribute?_eq]
    refine forall₂_filterMap (fun token => ?_) _
    exact optionRel_filter (fun hm => by rw [hm.kind_eq])
      (optionRel_byId? hids hids' hperm (baseId token))
  right_unique hscope h h' := h.right_unique hids' hscope h'
  left_unique hscope h h' := h.symm.right_unique hids hscope h'.symm

end Bindery.TranslationUnit
