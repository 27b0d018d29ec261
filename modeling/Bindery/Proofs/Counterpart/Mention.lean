import Bindery.Proofs.Counterpart.Basic
import Bindery.Proofs.Document.Element
import Bindery.Proofs.Text.Fields

/-!
# Where ids are mentioned

Six attributes hold ids: four of them a single one, the lists of members and of bases one for each
word. Everything that a node leads to is found by looking up ids that are mentioned in it. So nodes
are counterparts as soon as they mention corresponding ids, and corresponding ids are answered by
counterparts.
-/

namespace Bindery

namespace Node

/-- The attributes whose values are ids as they stand. -/
def wholeKeys : List String :=
  ["id", "context", "returns", "file"]

/-- The ids in the value of an attribute. -/
def idsIn (key value : String) : List String :=
  if key ∈ wholeKeys then [value]
  else if key = "members" then (Text.words value.toList).map String.ofList
  else if key = "bases" then
    (Text.words value.toList).map fun token => baseId (String.ofList token)
  else []

/-- The ids that a node mentions in an attribute. -/
def idsOf (node : Node) (key : String) : List String :=
  (node.attribute? key).elim [] (idsIn key)

/-- All ids that a node mentions: its own and those it refers to. -/
def mentionedIds (node : Node) : List String :=
  node.attributes.flatMap fun entry => idsIn entry.1 entry.2

variable {node : Node} {key id : String}

/-- The ids in an attribute are among those that the node mentions. -/
theorem mem_mentionedIds_of_mem_idsOf (h : id ∈ node.idsOf key) : id ∈ node.mentionedIds := by
  unfold idsOf at h
  cases hvalue : node.attribute? key with
  | none => rw [hvalue] at h; cases h
  | some value =>
    rw [hvalue] at h
    obtain ⟨_, _, hsplit, _⟩ := List.lookup_eq_some_iff.mp hvalue
    exact List.mem_flatMap.mpr ⟨(key, value), by rw [hsplit]; simp, h⟩

/-- An attribute whose value is an id mentions that one. -/
theorem idsOf_of_mem_wholeKeys (node : Node) (hkey : key ∈ wholeKeys) :
    node.idsOf key = (node.attribute? key).toList := by
  unfold idsOf
  cases node.attribute? key with
  | none => rfl
  | some value => exact if_pos hkey

/-- The list of members mentions its words. -/
theorem idsOf_members (node : Node) : node.idsOf "members" = node.idList "members" := by
  unfold idsOf idList
  cases node.attribute? "members" with
  | none => rfl
  | some value => rfl

/-- The list of bases mentions what its words say behind their access. -/
theorem idsOf_bases (node : Node) : node.idsOf "bases" = (node.idList "bases").map baseId := by
  unfold idsOf idList
  cases node.attribute? "bases" with
  | none => rfl
  | some value =>
    rw [List.map_map]
    rfl

end Node

namespace TranslationUnit

open Node

variable {unit unit' : TranslationUnit} {R : NodeId → NodeId → Prop} {n : NodeId} {key id : String}

/-- All ids that are mentioned in a translation unit. -/
def mentionedIds (unit : TranslationUnit) : List String :=
  unit.nodes.toList.flatMap Node.mentionedIds

/-- The ids that a node mentions are mentioned in the unit. -/
theorem mem_mentionedIds_of_mem_idsOf (h : id ∈ (unit.node n).idsOf key) :
    id ∈ unit.mentionedIds := by
  cases hnode : unit.nodes[n]? with
  | none =>
    rw [node, hnode] at h
    cases h
  | some found =>
    rw [node_eq_of_getElem? hnode] at h
    have hmem : found ∈ unit.nodes.toList := Array.mem_toList_iff.mpr (Array.mem_of_getElem? hnode)
    exact List.mem_flatMap.mpr ⟨found, hmem, Node.mem_mentionedIds_of_mem_idsOf h⟩

/-- A link leads to what answers to the id in the attribute. -/
theorem link?_eq_head?_bind (unit : TranslationUnit) (n : NodeId) (hkey : key ∈ wholeKeys) :
    unit.link? key n = ((unit.node n).idsOf key).head?.bind unit.byId? := by
  rw [link?, idsOf_of_mem_wholeKeys _ hkey]
  cases (unit.node n).attribute? key with
  | none => rfl
  | some value => rfl

/-- The members are what answers to the ids in the list of members. -/
theorem memberNodes_eq_filterMap (unit : TranslationUnit) (n : NodeId) :
    unit.memberNodes n = ((unit.node n).idsOf "members").filterMap unit.byId? := by
  rw [memberNodes, idsOf_members]

/-- The bases are the classes that answer to the ids in the list of bases. -/
theorem baseNodes_eq_filterMap (unit : TranslationUnit) (n : NodeId) :
    unit.baseNodes n = ((unit.node n).idsOf "bases").filterMap fun id =>
      unit.byIdOfKind? id NodeKind.isClassLike := by
  rw [baseNodes, idsOf_bases, List.filterMap_map]
  rfl

/-- Ids that are answered alike one by one, are answered alike as a list. -/
theorem forall₂_filterMap_map {answer answer' : String → Option NodeId} {rename : String → String}
    {ids : List String} (h : ∀ id ∈ ids, Option.Rel R (answer id) (answer' (rename id))) :
    List.Forall₂ R (ids.filterMap answer) ((ids.map rename).filterMap answer') := by
  have hids : List.Forall₂ (fun id id' => Option.Rel R (answer id) (answer' id')) ids
      (ids.map rename) := by
    rw [List.forall₂_map_right_iff, List.forall₂_same]
    exact h
  exact List.rel_filterMap (fun _ _ hanswers => hanswers) hids

/-- Nodes are counterparts if they agree but for ids, the ids that they mention correspond, and
corresponding ids are answered by counterparts. -/
theorem counterparts_of_byId? (rename : String → String)
    (hkind : ∀ {n n'}, R n n' → (unit.node n).kind = (unit'.node n').kind)
    (hattribute : ∀ {n n' key}, R n n' → key ∉ linkKeys →
      (unit.node n).attribute? key = (unit'.node n').attribute? key)
    (hchildren : ∀ {n n'}, R n n' →
      List.Forall₂ R (unit.node n).children (unit'.node n').children)
    (hids : ∀ {n n' key}, R n n' → key ∈ linkKeys →
      (unit'.node n').idsOf key = ((unit.node n).idsOf key).map rename)
    (hanswers : ∀ id ∈ unit.mentionedIds,
      Option.Rel R (unit.byId? id) (unit'.byId? (rename id)))
    (hright : ∀ {n n' m'}, R n n' → R n m' → n' = m')
    (hleft : ∀ {n m n'}, R n n' → R m n' → n = m) : Counterparts unit unit' R where
  kind := hkind
  attribute? := hattribute
  children := hchildren
  link? {n n' key} hn hkey := by
    have hwhole : ∀ key ∈ ["context", "returns", "file"], key ∈ wholeKeys ∧ key ∈ linkKeys := by
      decide
    have hmentioned : ∀ id ∈ (unit.node n).idsOf key, id ∈ unit.mentionedIds :=
      fun id hid => mem_mentionedIds_of_mem_idsOf hid
    rw [link?_eq_head?_bind _ _ (hwhole key hkey).1, link?_eq_head?_bind _ _ (hwhole key hkey).1,
      hids hn (hwhole key hkey).2]
    cases hfound : (unit.node n).idsOf key with
    | nil => exact .none
    | cons id others => exact hanswers id (hmentioned id (hfound ▸ List.mem_cons_self))
  memberNodes {n n'} hn := by
    rw [memberNodes_eq_filterMap, memberNodes_eq_filterMap, hids hn (by decide)]
    exact forall₂_filterMap_map fun id hid => hanswers id (mem_mentionedIds_of_mem_idsOf hid)
  baseNodes {n n'} hn := by
    rw [baseNodes_eq_filterMap, baseNodes_eq_filterMap, hids hn (by decide)]
    refine forall₂_filterMap_map fun id hid => ?_
    exact optionRel_filter (fun hm => by rw [hkind hm])
      (hanswers id (mem_mentionedIds_of_mem_idsOf hid))
  right_unique _ h h' := hright h h'
  left_unique _ h h' := hleft h h'

end TranslationUnit

end Bindery
