import Bindery.Proofs.Counterpart.Generate
import Bindery.Proofs.Counterpart.Mention
import Bindery.Proofs.Document.RoundTrip
import Bindery.Proofs.Scope.Ids

/-!
# Renamed ids

What an id looks like does not count. If all ids of a document are renamed, wherever they are
mentioned and distinct ones to distinct ones, the nodes keep their numbers, each leads to the same
nodes as before, and what is generated is the same.
-/

namespace Bindery

open Node (idsIn)

/-- A text that can stand for an id wherever one is mentioned: not empty, and with neither blanks
nor colons. -/
def isId (id : String) : Bool :=
  !id.toList.isEmpty && id.toList.all fun c => !Text.isBlank c && c != ':'

/-- A renaming of ids. -/
structure Renaming where
  /-- What an id is renamed to. -/
  apply : String → String
  /-- That is an id as well. -/
  isId_apply : ∀ id, isId id = true → isId (apply id) = true
  /-- Distinct ids stay distinct. -/
  injective : ∀ id id', isId id = true → isId id' = true → apply id = apply id' → id = id'

namespace Renaming

variable (rename : Renaming)

/-- Renames an id that is given by its characters. -/
def onWord (word : List Char) : List Char :=
  (rename.apply (String.ofList word)).toList

/-- Renames the id in an entry of a list of bases. The access words before it stay. -/
def onBase (token : List Char) : List Char :=
  Text.upToLast ':' token ++ rename.onWord (Text.afterLast ':' token)

/-- Renames the ids in the value of an attribute. -/
def onValue (key value : String) : String :=
  if key ∈ Node.wholeKeys then rename.apply value
  else if key = "members" then String.ofList (Text.mapWords rename.onWord value.toList)
  else if key = "bases" then String.ofList (Text.mapWords rename.onBase value.toList)
  else value

/-- Renames the ids in attributes. -/
def onAttributes (attributes : List (String × String)) : List (String × String) :=
  attributes.map fun entry => (entry.1, rename.onValue entry.1 entry.2)

mutual

/-- Renames the ids in a tree. -/
def onElement : Element → Element
  | .node name attributes children =>
    .node name (rename.onAttributes attributes) (onElements children)

/-- Renames the ids in a list of trees. -/
def onElements : List Element → List Element
  | [] => []
  | e :: rest => onElement e :: onElements rest

end

/-- Renames the ids that a node mentions. -/
def onNode (node : Node) : Node :=
  { node with attributes := rename.onAttributes node.attributes }

/-- Renames the ids in a translation unit. -/
def onUnit (unit : TranslationUnit) : TranslationUnit where
  nodes := unit.nodes.map rename.onNode
  top := unit.top

end Renaming

variable {rename : Renaming} {unit : TranslationUnit} {node : Node} {n : NodeId}
  {key value id : String} {token : List Char}

/-- What an id has for its characters. -/
theorem forall_mem_of_isId (h : isId id = true) :
    id.toList ≠ [] ∧ (∀ c ∈ id.toList, Text.isBlank c = false) ∧ ':' ∉ id.toList := by
  simp only [isId, Bool.and_eq_true, Bool.not_eq_true', List.isEmpty_eq_false_iff, List.all_eq_true,
    bne_iff_ne] at h
  exact ⟨h.1, fun c hc => (h.2 c hc).1, fun hcolon => (h.2 ':' hcolon).2 rfl⟩

namespace Renaming

/-- A renamed member is a word. -/
theorem forall_mem_onWord (h : isId (String.ofList token) = true) :
    rename.onWord token ≠ [] ∧ ∀ c ∈ rename.onWord token, Text.isBlank c = false := by
  obtain ⟨hsome, hblank, _⟩ := forall_mem_of_isId (rename.isId_apply _ h)
  exact ⟨hsome, hblank⟩

/-- A renamed entry of a list of bases is a word. -/
theorem forall_mem_onBase (htoken : ∀ c ∈ token, Text.isBlank c = false)
    (h : isId (baseId (String.ofList token)) = true) :
    rename.onBase token ≠ [] ∧ ∀ c ∈ rename.onBase token, Text.isBlank c = false := by
  rw [baseId, String.toList_ofList] at h
  obtain ⟨hsome, hblank⟩ := rename.forall_mem_onWord h
  refine ⟨fun hnil => hsome (List.append_eq_nil_iff.mp hnil).2, fun c hc => ?_⟩
  rcases List.mem_append.mp hc with hbefore | hafter
  · exact htoken c (List.mem_of_mem_take hbefore)
  · exact hblank c hafter

/-- A renamed entry of a list of bases stands for the renamed base. -/
theorem baseId_onBase (h : isId (baseId (String.ofList token)) = true) :
    baseId (String.ofList (rename.onBase token)) =
      rename.apply (baseId (String.ofList token)) := by
  rw [baseId, String.toList_ofList] at h ⊢
  have hcolon : ':' ∉ rename.onWord (Text.afterLast ':' token) :=
    (forall_mem_of_isId (rename.isId_apply _ h)).2.2
  rw [baseId, String.toList_ofList, onBase, Text.afterLast_upToLast_append hcolon, onWord,
    String.ofList_toList]

/-- The ids in a renamed value are the renamed ids. -/
theorem idsIn_onValue (hids : ∀ id ∈ idsIn key value, isId id = true) :
    idsIn key (rename.onValue key value) = (idsIn key value).map rename.apply := by
  by_cases hwhole : key ∈ Node.wholeKeys
  · simp only [idsIn, onValue, if_pos hwhole, List.map_singleton]
  by_cases hmembers : key = "members"
  · simp only [idsIn, onValue, if_neg hwhole, if_pos hmembers, String.toList_ofList] at hids ⊢
    rw [List.forall_mem_map] at hids
    rw [Text.words_mapWords fun word hword => forall_mem_onWord (hids word hword), List.map_map,
      List.map_map]
    exact List.map_congr_left fun word _ => String.ofList_toList
  by_cases hbases : key = "bases"
  · simp only [idsIn, onValue, if_neg hwhole, if_neg hmembers, if_pos hbases,
      String.toList_ofList] at hids ⊢
    rw [List.forall_mem_map] at hids
    rw [Text.words_mapWords fun word hword =>
      forall_mem_onBase (Text.ne_nil_of_mem_words hword).2 (hids word hword), List.map_map,
      List.map_map]
    exact List.map_congr_left fun word hword => baseId_onBase (hids word hword)
  · simp only [idsIn, onValue, if_neg hwhole, if_neg hmembers, if_neg hbases, List.map_nil]

/-- A renamed node has the renamed attributes. -/
theorem attribute?_onNode (rename : Renaming) (node : Node) (key : String) :
    (rename.onNode node).attribute? key = (node.attribute? key).map (rename.onValue key) := by
  unfold Node.attribute? onNode onAttributes
  induction node.attributes with
  | nil => rfl
  | cons entry rest ih =>
    obtain ⟨own, value⟩ := entry
    rw [List.map_cons, List.lookup_cons, List.lookup_cons, ih]
    by_cases hkey : key = own
    · subst hkey
      simp
    · simp [beq_false_of_ne hkey]

/-- A renamed node mentions the renamed ids. -/
theorem idsOf_onNode (hids : ∀ id ∈ node.idsOf key, isId id = true) :
    (rename.onNode node).idsOf key = (node.idsOf key).map rename.apply := by
  unfold Node.idsOf at hids ⊢
  rw [attribute?_onNode]
  cases hvalue : node.attribute? key with
  | none => rfl
  | some value =>
    rw [hvalue] at hids
    exact idsIn_onValue hids

/-- Attributes without ids stay as they are. -/
theorem attribute?_onNode_of_not_mem (rename : Renaming) (node : Node)
    (hkey : key ∉ TranslationUnit.linkKeys) :
    (rename.onNode node).attribute? key = node.attribute? key := by
  have hkeys : TranslationUnit.linkKeys = Node.wholeKeys ++ ["members", "bases"] := rfl
  simp only [hkeys, List.mem_append, List.mem_cons, List.not_mem_nil, or_false, not_or] at hkey
  have hvalue : rename.onValue key = id := by
    funext value
    simp only [onValue, if_neg hkey.1, if_neg hkey.2.1, if_neg hkey.2.2, id_eq]
  rw [attribute?_onNode, hvalue, Option.map_id, id_eq]

/-- Renaming ids changes the nodes of a translation unit one by one. -/
theorem node_onUnit (rename : Renaming) (unit : TranslationUnit) (n : NodeId) :
    (rename.onUnit unit).node n = rename.onNode (unit.node n) := by
  rw [TranslationUnit.node, TranslationUnit.node, onUnit, Array.getElem?_map]
  cases unit.nodes[n]? <;> rfl

/-- An attribute that is an id is renamed as a whole. -/
theorem attribute?_onNode_of_mem (rename : Renaming) (node : Node) (hkey : key ∈ Node.wholeKeys) :
    (rename.onNode node).attribute? key = (node.attribute? key).map rename.apply := by
  have hvalue : rename.onValue key = rename.apply := by
    funext value
    exact if_pos hkey
  rw [attribute?_onNode, hvalue]

/-- An attribute is the renamed id just in case it was the id. -/
theorem attribute?_onNode_beq (hkey : key ∈ Node.wholeKeys)
    (hnode : ∀ own ∈ node.idsOf key, isId own = true) (hid : isId id = true) :
    ((rename.onNode node).attribute? key == some (rename.apply id)) =
      (node.attribute? key == some id) := by
  rw [attribute?_onNode_of_mem rename node hkey, Bool.eq_iff_iff, beq_iff_eq, beq_iff_eq]
  rw [Node.idsOf_of_mem_wholeKeys node hkey] at hnode
  cases hown : node.attribute? key with
  | none => simp
  | some own =>
    rw [hown] at hnode
    rw [Option.map_some, Option.some.injEq, Option.some.injEq]
    exact ⟨rename.injective own id (hnode own List.mem_cons_self) hid, congrArg rename.apply⟩

/-- Whether a node has the renamed id in an attribute is settled as it was before. -/
theorem attribute?_onUnit_beq (hids : ∀ id ∈ unit.mentionedIds, isId id = true)
    (hid : isId id = true) (hkey : key ∈ Node.wholeKeys) (n : NodeId) :
    (((rename.onUnit unit).node n).attribute? key == some (rename.apply id)) =
      ((unit.node n).attribute? key == some id) := by
  rw [node_onUnit]
  exact attribute?_onNode_beq hkey
    (fun own hown => hids own (TranslationUnit.mem_mentionedIds_of_mem_idsOf hown)) hid

/-- A renamed id is answered by the node that answered to the id. -/
theorem byId?_onUnit (hids : ∀ id ∈ unit.mentionedIds, isId id = true) (hid : isId id = true) :
    (rename.onUnit unit).byId? (rename.apply id) = unit.byId? id := by
  have hnodes : ∀ entry ∈ unit.nodes.toList.zipIdx,
      ((rename.onNode entry.1).id? == some (rename.apply id)) = (entry.1.id? == some id) := by
    rintro ⟨node, m⟩ hentry
    have hnode := List.mem_zipIdx_iff_getElem?.mp hentry
    rw [Array.getElem?_toList] at hnode
    rw [← TranslationUnit.node_eq_of_getElem? hnode, ← node_onUnit]
    exact attribute?_onUnit_beq hids hid (by decide) m
  rw [TranslationUnit.byId?_eq, TranslationUnit.byId?_eq, onUnit, Array.toList_map,
    List.zipIdx_map, List.find?_map, Option.map_map, ← List.head?_filter, ← List.head?_filter]
  have hfound := List.filter_congr hnodes
  exact congrArg (fun found => found.head?.map (·.2)) hfound

/-- Renaming ids changes the size of no tree. -/
theorem sizeAll_onElements (rename : Renaming) (elements : List Element) :
    Element.sizeAll (rename.onElements elements) = Element.sizeAll elements := by
  induction elements using Element.listInduction with
  | nil => rfl
  | cons name attributes children rest ihchildren ihrest =>
    simp only [onElements, onElement, Element.sizeAll, Element.size, ihchildren, ihrest]

/-- Renaming ids changes the number of no root. -/
theorem roots_onElements (rename : Renaming) (start : Nat) (elements : List Element) :
    Element.roots start (rename.onElements elements) = Element.roots start elements := by
  induction elements generalizing start with
  | nil => rfl
  | cons e rest ih =>
    obtain ⟨name, attributes, children⟩ := e
    simp only [onElements, onElement, Element.roots, Element.size, sizeAll_onElements, ih]

/-- The nodes of renamed trees are the renamed nodes. -/
theorem nodesAll_onElements (rename : Renaming) (start : Nat) (elements : List Element) :
    Element.nodesAll start (rename.onElements elements) =
      (Element.nodesAll start elements).map rename.onNode := by
  induction elements using Element.listInduction generalizing start with
  | nil => rfl
  | cons name attributes children rest ihchildren ihrest =>
    simp only [onElements, onElement, Element.nodesAll, Element.nodes, Element.size,
      sizeAll_onElements, roots_onElements, ihchildren, ihrest, List.map_append, List.map_cons,
      onNode]

/-- Where ids are renamed in a document, they are renamed in its translation unit. -/
theorem arena_onElements (rename : Renaming) (elements : List Element) :
    TranslationUnit.arena (rename.onElements elements) =
      rename.onUnit (TranslationUnit.arena elements) := by
  simp only [TranslationUnit.arena, onUnit, nodesAll_onElements, roots_onElements,
    List.map_toArray]

/-- Nodes are the counterparts of the nodes of their numbers. -/
theorem counterparts_onUnit (rename : Renaming)
    (hids : ∀ id ∈ unit.mentionedIds, isId id = true) :
    TranslationUnit.Counterparts unit (rename.onUnit unit) Eq := by
  refine TranslationUnit.counterparts_of_byId? rename.apply ?_ ?_ ?_ ?_ ?_ ?_ ?_
  · rintro n _ rfl
    rw [node_onUnit, onNode]
  · rintro n _ key rfl hkey
    rw [node_onUnit, attribute?_onNode_of_not_mem rename _ hkey]
  · rintro n _ rfl
    rw [node_onUnit, onNode, List.forall₂_eq_eq_eq]
  · rintro n _ key rfl _
    rw [node_onUnit]
    exact idsOf_onNode fun id hid => hids id (TranslationUnit.mem_mentionedIds_of_mem_idsOf hid)
  · intro id hid
    rw [byId?_onUnit hids (hids id hid)]
    cases unit.byId? id with
    | none => exact .none
    | some n => exact .some rfl
  · rintro n _ _ rfl rfl
    rfl
  · rintro n _ _ rfl rfl
    rfl

end Renaming

namespace TranslationUnit

open Binding
open Markup.Document (declaration)

variable {options : Options} {elements : List Element}

section

variable (hids : ∀ id ∈ unit.mentionedIds, isId id = true)
include hids

/-- The id of a node is one. -/
theorem isId_of_id? (h : (unit.node n).id? = some id) : isId id = true := by
  have hmem : id ∈ (unit.node n).idsOf "id" := by
    rw [Node.idsOf_of_mem_wholeKeys _ (by decide), Option.mem_toList]
    exact h
  exact hids id (mem_mentionedIds_of_mem_idsOf hmem)

/-- What is declared where does not change with the ids. -/
theorem membersOf_onUnit (rename : Renaming) (n : NodeId) (accept : NodeKind → Bool) :
    (rename.onUnit unit).membersOf n accept = unit.membersOf n accept := by
  have hid : ((rename.onUnit unit).node n).id? = (unit.node n).id?.map rename.apply := by
    rw [rename.node_onUnit]
    exact rename.attribute?_onNode_of_mem _ (by decide)
  rw [membersOf, membersOf, hid]
  cases hown : (unit.node n).id? with
  | none => rfl
  | some id =>
    refine List.filter_congr fun m _ => ?_
    rw [rename.attribute?_onUnit_beq hids (isId_of_id? hids hown) (by decide), rename.node_onUnit]
    rfl

/-- The selected namespaces do not change with the ids. -/
theorem selectedNamespaces_onUnit (rename : Renaming) (options : Options) :
    (rename.onUnit unit).selectedNamespaces options = unit.selectedNamespaces options := by
  have h := rename.counterparts_onUnit hids
  have hglobal : (rename.onUnit unit).globalNamespace? = unit.globalNamespace? := by
    rw [globalNamespace?, globalNamespace?]
    exact congrArg (unit.top.find? ·) (funext fun n => (h.isGlobal_eq rfl).symm)
  have htop : (rename.onUnit unit).topNamespaces = unit.topNamespaces := by
    rw [topNamespaces_eq_elim, topNamespaces_eq_elim, hglobal]
    cases unit.globalNamespace? with
    | none => rfl
    | some root => exact membersOf_onUnit hids rename root _
  rw [selectedNamespaces, selectedNamespaces, htop]
  refine List.filter_congr fun n _ => ?_
  rw [Node.name, Node.name, h.name?_eq rfl]

end

/-- The trees nested in renamed trees are the renamed nested trees. -/
theorem subtreesAll_onElements (rename : Renaming) (elements : List Element) :
    Element.subtreesAll (rename.onElements elements) =
      (Element.subtreesAll elements).map rename.onElement := by
  induction elements using Element.listInduction with
  | nil => rfl
  | cons name attributes children rest ihchildren ihrest =>
    simp only [Renaming.onElements, Renaming.onElement, Element.subtreesAll, Element.subtrees,
      ihchildren, ihrest, List.map_append, List.map_cons]

/-- An element can be written with the renamed ids if it can be written at all. -/
theorem writable_onElement (rename : Renaming) {e : Element} (h : e.Writable) :
    (rename.onElement e).Writable := by
  obtain ⟨name, attributes, children⟩ := e
  have hkeys : (rename.onAttributes attributes).map Prod.fst = attributes.map Prod.fst := by
    rw [Renaming.onAttributes, List.map_map]
    rfl
  refine ⟨h.name, fun entry hentry => ?_, ?_⟩
  · obtain ⟨own, hown, rfl⟩ := List.mem_map.mp hentry
    exact h.keys own hown
  · exact hkeys ▸ h.distinct

/-- Ids are opaque. If the ids of a document are renamed wherever they are mentioned, the code, the
report and the next number are the same, whatever was asked before. The ids need not be distinct,
and there need not be nodes for those that are referred to. A document that can be written can also
be written with the renamed ids. -/
theorem generate_eq_of_renaming (rename : Renaming) {text : String}
    (htext : ofText text = .ok unit) (hshows : List.Forall₂ unit.Shows unit.top elements)
    (hids : ∀ id ∈ unit.mentionedIds, isId id = true) :
    ((∃ document : Markup.Document, document.elements = elements) →
      ∃ document : Markup.Document, document.elements = rename.onElements elements) ∧
    ∀ {text' unit'}, ofText text' = .ok unit' →
      List.Forall₂ unit'.Shows unit'.top (rename.onElements elements) →
      ∀ (base : Option Path) (file : Path) (options : Options) (counter : Counter)
        (journal journal' : Array Log.Notice) (asked asked' : List Question),
      ((unit'.generate base file options counter).run (unit'.sessionAfter journal' asked')).1 =
        ((unit.generate base file options counter).run (unit.sessionAfter journal asked)).1 := by
  obtain ⟨_, rfl, -⟩ := exists_elements htext
  obtain rfl := shows_unique (shows_arena _) hshows
  refine ⟨fun hdocument => ?_, fun htext' hshows' base file options counter _ _ _ _ => ?_⟩
  · rw [Markup.exists_document_iff] at hdocument ⊢
    rw [subtreesAll_onElements, List.forall_mem_map]
    exact fun e he => writable_onElement rename (hdocument e he)
  · obtain ⟨_, rfl, -⟩ := exists_elements htext'
    obtain rfl := shows_unique (shows_arena _) hshows'
    rw [rename.arena_onElements]
    refine ((rename.counterparts_onUnit hids).generate_eq base file options counter ?_ ?_ ?_
      _ _ _ _).symm
    · rw [selectedNamespaces_onUnit hids, List.forall₂_eq_eq_eq]
    · rintro n _ rfl _
      rw [enumerationsIn, enumerationsIn, membersOf_onUnit hids, List.forall₂_eq_eq_eq]
    · rintro n _ rfl _
      rw [classesIn, classesIn, membersOf_onUnit hids, List.forall₂_eq_eq_eq]

/-- The renaming that puts a letter in front of every id. -/
def putLetter : Renaming where
  apply id := String.ofList ('i' :: id.toList)
  isId_apply id hid := by
    have hletter : (!Text.isBlank 'i' && 'i' != ':') = true := by decide
    rw [isId, Bool.and_eq_true] at hid
    rw [isId, String.toList_ofList, List.all_cons, hletter, hid.2]
    rfl
  injective id id' _ _ heq :=
    String.toList_injective (List.tail_eq_of_cons_eq (String.ofList_injective heq))

/-- A class with a data member and a private base, under ids that begin in the given way. -/
def derivedClass (letters : String) : Markup.Document :=
  have hkeys : ["id".toList, "name".toList, "context".toList, "members".toList,
    "bases".toList].Nodup := by decide
  .flat [declaration "Namespace" (letters ++ "1") "::" (letters ++ "0"),
    declaration "Namespace" (letters ++ "2") "a" (letters ++ "1"),
    declaration "Class" (letters ++ "3") "B" (letters ++ "2"),
    (.ofString "Class", ⟨[⟨.ofString "id", letters ++ "4", .double⟩,
      ⟨.ofString "name", "C", .double⟩, ⟨.ofString "context", letters ++ "2", .double⟩,
      ⟨.ofString "members", letters ++ "5 " ++ letters ++ "404", .double⟩,
      ⟨.ofString "bases", "private:" ++ letters ++ "3", .double⟩], hkeys⟩),
    declaration "Field" (letters ++ "5") "x" (letters ++ "4")]

/-- A letter in front of every id does not change what is generated for the class. -/
theorem generate_derivedClass_eq :
    (((arena (derivedClass "i").elements).generate (some ⟨"/"⟩) ⟨"a.hh"⟩ ⟨["a"], none, "bind_"⟩
        ⟨1001⟩).run ((arena (derivedClass "i").elements).sessionAfter #[] [])).1 =
      (((arena (derivedClass "").elements).generate (some ⟨"/"⟩) ⟨"a.hh"⟩ ⟨["a"], none, "bind_"⟩
        ⟨1001⟩).run ((arena (derivedClass "").elements).sessionAfter #[] [])).1 := by
  have hrenamed : (derivedClass "i").elements = putLetter.onElements (derivedClass "").elements := by
    rfl
  refine (generate_eq_of_renaming putLetter (ofText_text (derivedClass "") (by decide)) (shows_arena _)
    (by decide)).2 (ofText_text (derivedClass "i") (by decide)) ?_ _ _ _ _ _ _ _ _
  rw [hrenamed]
  exact shows_arena _

end TranslationUnit

end Bindery
