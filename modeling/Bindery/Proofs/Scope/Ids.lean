import Bindery.TranslationUnit.Selection

/-!
# Distinct ids

An id is answered by the first node that carries it. Where no two nodes carry the same id, the
answer to the id of a node is the node itself.
-/

namespace Bindery.TranslationUnit

variable {unit : TranslationUnit} {n m : NodeId} {id : String}

/-- No two nodes carry the same id. -/
def DistinctIds (unit : TranslationUnit) : Prop :=
  ∀ n m id, (unit.node n).id? = some id → (unit.node m).id? = some id → n = m

/-- A node that carries an id is one of the unit. -/
theorem getElem?_of_id? (h : (unit.node n).id? = some id) :
    unit.nodes[n]? = some (unit.node n) := by
  cases hnode : unit.nodes[n]? with
  | none => rw [node, hnode] at h; cases h
  | some found => rw [node, hnode, Option.getD_some]

/-- There is a node of each number that carries an id. -/
theorem lt_size_of_id? (h : (unit.node n).id? = some id) : n < unit.size :=
  (Array.getElem?_eq_some_iff.mp (getElem?_of_id? h)).1

/-- Ids are distinct if no id is repeated in the list of all ids. -/
theorem distinctIds_of_nodup (h : (unit.nodes.toList.filterMap Node.id?).Nodup) :
    unit.DistinctIds := by
  intro n m id hn hm
  have hlt {k : NodeId} (hk : (unit.node k).id? = some id) :
      ∃ hlt : k < unit.nodes.toList.length, unit.nodes.toList[k].id? = some id := by
    obtain ⟨hlt, hnode⟩ := Array.getElem?_eq_some_iff.mp (getElem?_of_id? hk)
    exact ⟨hlt, by rwa [Array.getElem_toList, hnode]⟩
  obtain ⟨hnlt, hn⟩ := hlt hn
  obtain ⟨hmlt, hm⟩ := hlt hm
  have hpairs := List.pairwise_iff_getElem.mp (List.pairwise_filterMap.mp h)
  rcases Nat.lt_trichotomy n m with hless | heq | hless
  · exact absurd rfl (hpairs n m hnlt hmlt hless id hn id hm)
  · exact heq
  · exact absurd rfl (hpairs m n hmlt hnlt hless id hm id hn)

/-- The node that answers to an id carries it. -/
theorem id?_of_byId? (h : unit.byId? id = some n) : (unit.node n).id? = some id := by
  rw [byId?_eq] at h
  obtain ⟨⟨found, _⟩, hfind, rfl⟩ := Option.map_eq_some_iff.mp h
  have hcarries := List.find?_some hfind
  have hmem := List.mem_zipIdx_iff_getElem?.mp (List.mem_of_find?_eq_some hfind)
  rw [Array.getElem?_toList] at hmem
  rw [node, hmem, Option.getD_some]
  exact eq_of_beq hcarries

/-- No node before the one that answers to an id carries it. -/
theorem le_of_byId? (h : unit.byId? id = some n) (hm : (unit.node m).id? = some id) : n ≤ m := by
  rw [byId?_eq] at h
  obtain ⟨entry, hfind, rfl⟩ := Option.map_eq_some_iff.mp h
  obtain ⟨_, i, hi, rfl, hbefore⟩ := List.find?_eq_some_iff_getElem.mp hfind
  simp only [List.getElem_zipIdx, Nat.zero_add] at hbefore ⊢
  refine Nat.le_of_not_lt fun hlt => ?_
  have hcarries := hbefore m hlt
  obtain ⟨_, hnode⟩ := Array.getElem?_eq_some_iff.mp (getElem?_of_id? hm)
  rw [Array.getElem_toList, hnode, hm] at hcarries
  simp at hcarries

/-- Some node answers to the id of a node. -/
theorem isSome_byId? (h : (unit.node n).id? = some id) : (unit.byId? id).isSome = true := by
  have hmem : (unit.node n, n) ∈ unit.nodes.toList.zipIdx :=
    List.mem_zipIdx_iff_getElem?.mpr (by rw [Array.getElem?_toList, getElem?_of_id? h])
  rw [byId?_eq, Option.isSome_map, List.find?_isSome]
  exact ⟨_, hmem, beq_iff_eq.mpr h⟩

/-- An id is answered by the first node that carries it. -/
theorem byId?_eq_some_iff : unit.byId? id = some n ↔
    n < unit.size ∧ (unit.node n).id? = some id ∧ ∀ m < n, (unit.node m).id? ≠ some id := by
  constructor
  · intro h
    exact ⟨lt_size_of_byId? h, id?_of_byId? h, fun m hm hid =>
      Nat.not_le_of_lt hm (le_of_byId? h hid)⟩
  · rintro ⟨-, hid, hfirst⟩
    obtain ⟨m, hm⟩ := Option.isSome_iff_exists.mp (isSome_byId? hid)
    rcases Nat.lt_or_eq_of_le (le_of_byId? hm hid) with hlt | rfl
    · exact absurd (id?_of_byId? hm) (hfirst m hlt)
    · exact hm

/-- An id is not answered just in case no node carries it. -/
theorem byId?_eq_none_iff :
    unit.byId? id = none ↔ ∀ n < unit.size, (unit.node n).id? ≠ some id := by
  constructor
  · intro h n _ hid
    have hsome := isSome_byId? hid
    rw [h] at hsome
    cases hsome
  · intro h
    refine Option.eq_none_iff_forall_ne_some.mpr fun n hn => ?_
    exact h n (lt_size_of_byId? hn) (id?_of_byId? hn)

/-- Where ids are distinct, a node answers to its id. -/
theorem DistinctIds.byId?_eq_some (hids : unit.DistinctIds) (h : (unit.node n).id? = some id) :
    unit.byId? id = some n := by
  obtain ⟨m, hm⟩ := Option.isSome_iff_exists.mp (isSome_byId? h)
  rw [hm, hids m n id (id?_of_byId? hm) h]

/-- The context of a node is the id of the other. -/
def standsIn (unit : TranslationUnit) (n scope : NodeId) : Bool :=
  (unit.node scope).id?.isSome && (unit.node n).attribute? "context" == (unit.node scope).id?

/-- A node that stands in another names its id. -/
theorem exists_id_of_standsIn (h : unit.standsIn n m = true) :
    ∃ id, (unit.node m).id? = some id ∧ (unit.node n).attribute? "context" = some id := by
  rw [standsIn, Bool.and_eq_true, beq_iff_eq] at h
  obtain ⟨id, hid⟩ := Option.isSome_iff_exists.mp h.1
  exact ⟨id, hid, h.2.trans hid⟩

/-- Where ids are distinct, a node stands in one other node at most. -/
theorem DistinctIds.standsIn_unique (hids : unit.DistinctIds) {scope scope' : NodeId}
    (h : unit.standsIn n scope = true) (h' : unit.standsIn n scope' = true) : scope = scope' := by
  obtain ⟨id, hid, hcontext⟩ := exists_id_of_standsIn h
  obtain ⟨id', hid', hcontext'⟩ := exists_id_of_standsIn h'
  obtain rfl := Option.some.inj (hcontext.symm.trans hcontext')
  exact hids scope scope' id hid hid'

/-- Where ids are distinct, the scope of a node is the one it stands in, unless that is global. -/
theorem DistinctIds.scope?_of_standsIn (hids : unit.DistinctIds)
    (h : unit.standsIn n m = true) :
    unit.scope? n = if unit.isGlobal m then none else some m := by
  obtain ⟨id, hid, hcontext⟩ := exists_id_of_standsIn h
  simp [scope?, hcontext, hids.byId?_eq_some hid]

/-- The nodes that are declared directly in a given one are those at the top that stand in it. -/
theorem membersOf_eq (unit : TranslationUnit) (scope : NodeId) (accept : NodeKind → Bool) :
    unit.membersOf scope accept =
      unit.top.filter fun n => accept (unit.node n).kind && unit.standsIn n scope := by
  unfold membersOf
  cases hid : (unit.node scope).id? with
  | none => simp [standsIn, hid]
  | some id => simp [standsIn, hid, declaredIn]

/-- The namespaces at the top are those declared directly in the first global one. -/
theorem topNamespaces_eq_elim (unit : TranslationUnit) :
    unit.topNamespaces = unit.globalNamespace?.elim [] fun root =>
      unit.membersOf root (· == .nameSpace) := by
  unfold topNamespaces globalId? membersOf
  cases unit.globalNamespace? <;> rfl

end Bindery.TranslationUnit
