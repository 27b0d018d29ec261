import Bindery.Proofs.Counterpart.Generate
import Bindery.Proofs.Counterpart.Mention
import Bindery.Proofs.Counterpart.SameElement

/-!
# One element more

An element that is inserted directly below the document element moves the nodes behind it on by as
many numbers as it has elements. If no other element mentions an id that is carried in it, nothing
leads from the other nodes into it. So it counts for what is generated only as a namespace, an
enumeration or a class that is selected itself.
-/

namespace Bindery

open Element Binding
open Markup.Document (declaration)

variable {start : Nat} {n place width : Nat} {elements : List Element}

/-- The number of a node behind an insertion of `width` nodes at the number `place`. -/
def moved (place width n : Nat) : Nat :=
  if n < place then n else n + width

/-- Distinct nodes stay distinct. -/
theorem moved_injective (place width : Nat) : Function.Injective (moved place width) := by
  intro n m h
  unfold moved at h
  split at h <;> split at h <;> omega

/-- Nodes keep their order. -/
theorem moved_lt_moved_iff {m : Nat} : moved place width n < moved place width m ↔ n < m := by
  unfold moved
  split <;> split <;> omega

/-- Every number but those of the inserted nodes is that of a moved node. -/
theorem exists_moved_eq (h : n < place ∨ place + width ≤ n) :
    ∃ m, moved place width m = n := by
  rcases h with hbefore | hbehind
  · exact ⟨n, if_pos hbefore⟩
  · refine ⟨n - width, ?_⟩
    rw [moved, if_neg (by omega)]
    omega

/-- What is found at a moved number behind the insertion was found at the number before it. -/
theorem getElem?_moved {α : Type} (ahead new behind : List α) (n : Nat) :
    (ahead ++ (new ++ behind))[moved ahead.length new.length n]? = (ahead ++ behind)[n]? := by
  by_cases hn : n < ahead.length
  · rw [moved, if_pos hn, List.getElem?_append_left hn, List.getElem?_append_left hn]
  · have hplace : ahead.length ≤ n := Nat.le_of_not_lt hn
    have hnumber : n + new.length - ahead.length = new.length + (n - ahead.length) := by omega
    rw [moved, if_neg hn, List.getElem?_append_right (Nat.le_add_right_of_le hplace), hnumber,
      List.getElem?_append_right (Nat.le_add_right _ _), Nat.add_sub_cancel_left,
      List.getElem?_append_right hplace]

namespace Element

/-- The value of an attribute. -/
def attribute? (e : Element) (key : String) : Option String :=
  e.attributes.lookup key

/-- There are as many nodes as elements in a single tree. -/
theorem length_nodes (start : Nat) (e : Element) : (e.nodes start).length = e.size := by
  have hall := length_nodesAll start [e]
  rwa [nodesAll, nodesAll, List.append_nil, sizeAll, sizeAll, Nat.add_zero] at hall

/-- A later start moves the roots on. -/
theorem roots_add (start width : Nat) (elements : List Element) :
    roots (start + width) elements = (roots start elements).map (· + width) := by
  induction elements generalizing start with
  | nil => rfl
  | cons e rest ih =>
    rw [roots, roots, List.map_cons, ← ih, Nat.add_right_comm]

/-- Roots are numbered among the elements. -/
theorem lt_of_mem_roots (h : n ∈ roots start elements) : n < start + sizeAll elements := by
  induction elements generalizing start with
  | nil => cases h
  | cons e rest ih =>
    have hsize : 0 < e.size := by cases e; exact Nat.succ_pos _
    rw [sizeAll]
    rcases List.mem_cons.mp h with rfl | hrest
    · omega
    · have := ih hrest
      omega

/-- A later start moves the nodes on. -/
theorem nodesAll_add (start width : Nat) (elements : List Element) :
    nodesAll (start + width) elements = (nodesAll start elements).map fun node =>
      { node with children := node.children.map (· + width) } := by
  induction elements using listInduction generalizing start with
  | nil => rfl
  | cons name attributes children rest ihchildren ihrest =>
    simp only [nodesAll, nodes, List.map_append, List.map_cons, ← ihchildren, ← ihrest,
      Nat.add_right_comm start width, roots_add]

/-- The children of a node are numbered among the elements. -/
theorem mem_children_bounds {node : Node} (hnode : node ∈ nodesAll start elements)
    (hn : n ∈ node.children) : start ≤ n ∧ n < start + sizeAll elements := by
  induction elements using listInduction generalizing start with
  | nil => cases hnode
  | cons name attributes children rest ihchildren ihrest =>
    simp only [nodesAll, nodes, List.cons_append, List.mem_cons, List.mem_append] at hnode
    simp only [sizeAll, Element.size]
    rcases hnode with rfl | hinside | hrest
    · have hlow := le_of_mem_roots hn
      have hhigh := lt_of_mem_roots hn
      omega
    · have := ihchildren hinside
      omega
    · have := ihrest hrest
      simp only [Element.size] at this
      omega

end Element

/-- A node with the numbers that its children have behind an insertion. -/
def Node.moveChildren (place width : Nat) (node : Node) : Node :=
  { node with children := node.children.map (moved place width) }

namespace TranslationUnit

variable {before after : List Element} {e : Element} {unit : TranslationUnit} {id : String}

/-- The nodes before an insertion stay as they are. -/
theorem map_moveChildren_before (width : Nat) (before : List Element) :
    (nodesAll 0 before).map (Node.moveChildren (sizeAll before) width) = nodesAll 0 before := by
  refine (List.map_congr_left fun node hnode => ?_).trans (List.map_id _)
  have hchildren : node.children.map (moved (sizeAll before) width) = node.children := by
    refine (List.map_congr_left fun n hn => if_pos ?_).trans (List.map_id _)
    have := mem_children_bounds hnode hn
    omega
  rw [Node.moveChildren, hchildren]
  rfl

/-- The nodes behind an insertion are those that stood there before it. -/
theorem map_moveChildren_after (place width : Nat) (after : List Element) :
    (nodesAll place after).map (Node.moveChildren place width) =
      nodesAll (place + width) after := by
  rw [nodesAll_add]
  refine List.map_congr_left fun node hnode => ?_
  have hchildren : node.children.map (moved place width) = node.children.map (· + width) := by
    refine List.map_congr_left fun n hn => if_neg ?_
    have := mem_children_bounds hnode hn
    omega
  rw [Node.moveChildren, hchildren]

/-- The nodes of an arena in a list. -/
theorem toList_nodes_arena (elements : List Element) :
    (arena elements).nodes.toList = nodesAll 0 elements :=
  rfl

/-- A node that was there has the same attributes and the same children, under the numbers that they
have behind the insertion. -/
theorem node_arena_insert (before after : List Element) (e : Element) (n : NodeId) :
    (arena (before ++ e :: after)).node (moved (sizeAll before) e.size n) =
      ((arena (before ++ after)).node n).moveChildren (sizeAll before) e.size := by
  have hahead : ((nodesAll 0 before).map (Node.moveChildren (sizeAll before) e.size)).length =
      sizeAll before := by
    rw [List.length_map, length_nodesAll]
  have hmoved := getElem?_moved ((nodesAll 0 before).map (Node.moveChildren (sizeAll before) e.size))
    (e.nodes (sizeAll before))
    ((nodesAll (sizeAll before) after).map (Node.moveChildren (sizeAll before) e.size)) n
  rw [hahead, length_nodes, ← List.map_append, List.getElem?_map, map_moveChildren_before,
    map_moveChildren_after] at hmoved
  have hfound : (arena (before ++ e :: after)).nodes[moved (sizeAll before) e.size n]? =
      ((arena (before ++ after)).nodes[n]?).map (Node.moveChildren (sizeAll before) e.size) := by
    rw [← Array.getElem?_toList, ← Array.getElem?_toList, toList_nodes_arena, toList_nodes_arena,
      nodesAll_append, nodesAll_append, Nat.zero_add, nodesAll]
    exact hmoved
  rw [node, node, hfound]
  cases (arena (before ++ after)).nodes[n]? <;> rfl

/-- A node has the attributes of the tree that it shows. -/
theorem Shows.attribute?_eq {e : Element} (h : unit.Shows n e) (key : String) :
    (unit.node n).attribute? key = e.attribute? key := by
  rw [Node.attribute?, h.node_eq.2.1, Element.attribute?]

/-- An attribute of a node that was there is what it was. -/
theorem attribute?_arena_insert (before after : List Element) (e : Element) (n : NodeId)
    (key : String) :
    ((arena (before ++ e :: after)).node (moved (sizeAll before) e.size n)).attribute? key =
      ((arena (before ++ after)).node n).attribute? key := by
  rw [node_arena_insert]
  rfl

/-- The nodes of the inserted tree stand at its place. -/
theorem holds_insert (before after : List Element) (e : Element) :
    (arena (before ++ e :: after)).Holds (sizeAll before) (nodesAll (sizeAll before) [e]) := by
  have hholds := holds_arena (before ++ e :: after)
  rw [nodesAll_append, Nat.zero_add, ← List.singleton_append, nodesAll_append] at hholds
  have hinserted := hholds.of_append.2
  rw [length_nodesAll, Nat.zero_add] at hinserted
  exact hinserted.of_append.1

/-- The inserted tree stands at its place. -/
theorem shows_insert (before after : List Element) (e : Element) :
    (arena (before ++ e :: after)).Shows (sizeAll before) e := by
  cases (holds_insert before after e).shows with
  | cons hshows _ => exact hshows

/-- A node that was not there shows a part of the inserted tree. -/
theorem exists_shows_insert (before after : List Element) {e : Element}
    (hplace : sizeAll before ≤ n) (hend : n < sizeAll before + e.size) :
    ∃ inner ∈ e.subtrees, (arena (before ++ e :: after)).Shows n inner := by
  obtain ⟨inner, hinner, hshows⟩ := (holds_insert before after e).exists_shows hplace
    (by rwa [sizeAll, sizeAll, Nat.add_zero])
  rw [subtreesAll, subtreesAll, List.append_nil] at hinner
  exact ⟨inner, hinner, hshows⟩

/-- No id that is carried in the tree is mentioned in the unit. -/
def Unmentioned (unit : TranslationUnit) (e : Element) : Prop :=
  ∀ inner ∈ e.subtrees, ∀ id, inner.attribute? "id" = some id → id ∉ unit.mentionedIds

/-- A tree that is not to be generated code for, and that nothing in the unit refers to. It may
itself refer to what is in the unit. -/
structure Unrelated (unit : TranslationUnit) (options : Options) (e : Element) : Prop where
  /-- No id that is carried in the tree is mentioned in the unit. -/
  unmentioned : unit.Unmentioned e
  /-- It is no global namespace. -/
  ne_global : e.kind = .nameSpace → e.attribute? "name" ≠ some "::"
  /-- If it is a namespace, then it does not stand in the first global one, or has none of the given
  names. -/
  unselected : e.kind = .nameSpace →
    (∀ id, unit.globalId? = some id → e.attribute? "context" ≠ some id) ∨
      (e.attribute? "name").getD "" ∉ options.namespaces
  /-- If it is an enumeration or a class, then it stands in no selected namespace. -/
  undeclared : e.kind = .enumeration ∨ e.kind.isClassLike = true →
    ∀ n ∈ unit.selectedNamespaces options, ∀ id, (unit.node n).id? = some id →
      e.attribute? "context" ≠ some id

section

variable (hfresh : (arena (before ++ after)).Unmentioned e)
include hfresh

/-- Among the nodes behind an insertion, a mentioned id is carried by moved nodes only. -/
theorem exists_moved_of_id? (hid : id ∈ (arena (before ++ after)).mentionedIds)
    (h : ((arena (before ++ e :: after)).node n).id? = some id) :
    ∃ m, moved (sizeAll before) e.size m = n ∧
      ((arena (before ++ after)).node m).id? = some id := by
  by_cases hnew : sizeAll before ≤ n ∧ n < sizeAll before + e.size
  · obtain ⟨inner, hinner, hshows⟩ := exists_shows_insert before after hnew.1 hnew.2
    rw [Node.id?, hshows.attribute?_eq] at h
    exact absurd hid (hfresh inner hinner id h)
  · have hother : n < sizeAll before ∨ sizeAll before + e.size ≤ n := by omega
    obtain ⟨m, rfl⟩ := exists_moved_eq hother
    rw [node_arena_insert] at h
    exact ⟨m, rfl, h⟩

/-- A mentioned id is answered by the node that answered to it. -/
theorem byId?_arena_insert (hid : id ∈ (arena (before ++ after)).mentionedIds) :
    (arena (before ++ e :: after)).byId? id =
      ((arena (before ++ after)).byId? id).map (moved (sizeAll before) e.size) := by
  cases hfound : (arena (before ++ after)).byId? id with
  | none =>
    refine Option.eq_none_iff_forall_ne_some.mpr fun n hn => ?_
    obtain ⟨m, _, hm⟩ := exists_moved_of_id? hfresh hid (id?_of_byId? hn)
    have hsome := isSome_byId? hm
    rw [hfound] at hsome
    cases hsome
  | some n =>
    have hn : ((arena (before ++ e :: after)).node (moved (sizeAll before) e.size n)).id? =
        some id := by
      rw [node_arena_insert]
      exact id?_of_byId? hfound
    obtain ⟨first, hfirst⟩ := Option.isSome_iff_exists.mp (isSome_byId? hn)
    obtain ⟨m, rfl, hm⟩ := exists_moved_of_id? hfresh hid (id?_of_byId? hfirst)
    -- Each of the two nodes that answer carries the id, so neither comes before the other.
    have hle : n ≤ m := le_of_byId? hfound hm
    have hge : ¬n < m := fun hlt =>
      Nat.not_lt_of_le (le_of_byId? hfirst hn) (moved_lt_moved_iff.mpr hlt)
    rw [hfirst, Nat.le_antisymm hle (Nat.le_of_not_lt hge)]
    rfl

/-- Nodes are the counterparts of the nodes that they are moved to. -/
theorem counterparts_insert : Counterparts (arena (before ++ after)) (arena (before ++ e :: after))
    fun n n' => n' = moved (sizeAll before) e.size n := by
  refine counterparts_of_byId? id ?_ ?_ ?_ ?_ ?_ ?_ ?_
  · rintro n _ rfl
    rw [node_arena_insert]
    rfl
  · rintro n _ key rfl _
    exact (attribute?_arena_insert before after e n key).symm
  · rintro n _ rfl
    rw [node_arena_insert, Node.moveChildren, List.forall₂_map_right_iff, List.forall₂_same]
    exact fun _ _ => rfl
  · rintro n _ key rfl _
    rw [Node.idsOf, Node.idsOf, attribute?_arena_insert, List.map_id]
  · intro id hid
    rw [id_eq, byId?_arena_insert hfresh hid]
    cases (arena (before ++ after)).byId? id with
    | none => exact .none
    | some n => exact .some rfl
  · rintro n _ _ rfl rfl
    rfl
  · rintro n m _ rfl h
    exact moved_injective _ _ h

end

/-- Nodes at the top that pass a test are those that passed it before, if the inserted one does
not. -/
theorem filter_top_insert {p p' : NodeId → Bool}
    (hp : ∀ n, p' (moved (sizeAll before) e.size n) = p n) (hnew : p' (sizeAll before) = false) :
    (arena (before ++ e :: after)).top.filter p' =
      ((arena (before ++ after)).top.filter p).map (moved (sizeAll before) e.size) := by
  have hahead : roots 0 before = (roots 0 before).map (moved (sizeAll before) e.size) := by
    refine (List.map_id _).symm.trans (List.map_congr_left fun n hn => (if_pos ?_).symm)
    have := lt_of_mem_roots hn
    omega
  have hbehind : roots (sizeAll before + e.size) after =
      (roots (sizeAll before) after).map (moved (sizeAll before) e.size) := by
    rw [roots_add]
    refine List.map_congr_left fun n hn => (if_neg ?_).symm
    have := le_of_mem_roots hn
    omega
  have hsame : p' ∘ moved (sizeAll before) e.size = p := funext hp
  have htop : (arena (before ++ e :: after)).top = roots 0 before ++
      sizeAll before :: roots (sizeAll before + e.size) after := by
    rw [arena, roots_append, Nat.zero_add, roots]
  have htop' : (arena (before ++ after)).top =
      roots 0 before ++ roots (sizeAll before) after := by
    rw [arena, roots_append, Nat.zero_add]
  have hfilter (numbers : List NodeId) :
      (numbers.map (moved (sizeAll before) e.size)).filter p' =
        (numbers.filter p).map (moved (sizeAll before) e.size) := by
    rw [List.filter_map, hsame]
  rw [htop, htop', List.filter_append, List.filter_cons_of_neg (by simp [hnew]),
    List.filter_append, List.map_append, ← hfilter, ← hfilter, ← hahead, ← hbehind]

/-- A node that was there stands in another as it did before. -/
theorem standsIn_insert (before after : List Element) (e : Element) (n m : NodeId) :
    (arena (before ++ e :: after)).standsIn (moved (sizeAll before) e.size n)
        (moved (sizeAll before) e.size m) =
      (arena (before ++ after)).standsIn n m := by
  rw [standsIn, standsIn, Node.id?, Node.id?, attribute?_arena_insert, attribute?_arena_insert]

/-- The inserted tree stands in the nodes that it names as its context. -/
theorem exists_id_of_standsIn_insert
    (h : (arena (before ++ e :: after)).standsIn (sizeAll before)
      (moved (sizeAll before) e.size n) = true) :
    ∃ id, ((arena (before ++ after)).node n).id? = some id ∧ e.attribute? "context" = some id := by
  obtain ⟨id, hid, hcontext⟩ := exists_id_of_standsIn h
  rw [Node.id?, attribute?_arena_insert] at hid
  rw [(shows_insert before after e).attribute?_eq] at hcontext
  exact ⟨id, hid, hcontext⟩

/-- What is declared in a node that was there is what was declared in it, unless the inserted tree
is. -/
theorem membersOf_insert {accept : NodeKind → Bool}
    (hother : accept e.kind = true → ∀ id, ((arena (before ++ after)).node n).id? = some id →
      e.attribute? "context" ≠ some id) :
    (arena (before ++ e :: after)).membersOf (moved (sizeAll before) e.size n) accept =
      ((arena (before ++ after)).membersOf n accept).map (moved (sizeAll before) e.size) := by
  rw [membersOf_eq, membersOf_eq]
  refine filter_top_insert (fun m => ?_) (Bool.eq_false_iff.mpr fun hnew => ?_)
  · rw [standsIn_insert, node_arena_insert]
    rfl
  · rw [Bool.and_eq_true, (shows_insert before after e).kind_eq] at hnew
    obtain ⟨id, hid, hcontext⟩ := exists_id_of_standsIn_insert hnew.2
    exact hother hnew.1 id hid hcontext

/-- The first global namespace is the one that it was, unless the inserted tree is one. -/
theorem globalNamespace?_insert (hlocal : e.kind = .nameSpace → e.attribute? "name" ≠ some "::") :
    (arena (before ++ e :: after)).globalNamespace? =
      (arena (before ++ after)).globalNamespace?.map (moved (sizeAll before) e.size) := by
  have hfilter : (arena (before ++ e :: after)).top.filter (arena (before ++ e :: after)).isGlobal =
      ((arena (before ++ after)).top.filter (arena (before ++ after)).isGlobal).map
        (moved (sizeAll before) e.size) := by
    refine filter_top_insert (fun m => ?_) (Bool.eq_false_iff.mpr fun hnew => ?_)
    · rw [isGlobal, node_arena_insert]
      rfl
    · rw [isGlobal, Node.isGlobalNamespace, Bool.and_eq_true, beq_iff_eq, beq_iff_eq,
        (shows_insert before after e).kind_eq, Node.name?,
        (shows_insert before after e).attribute?_eq] at hnew
      exact hlocal hnew.1 hnew.2
  rw [globalNamespace?, globalNamespace?, ← List.head?_filter, ← List.head?_filter, hfilter,
    List.head?_map]

/-- The selected namespaces are those that were selected, unless the inserted tree is one. -/
theorem selectedNamespaces_insert {options : Options}
    (h : (arena (before ++ after)).Unrelated options e) :
    (arena (before ++ e :: after)).selectedNamespaces options =
      ((arena (before ++ after)).selectedNamespaces options).map
        (moved (sizeAll before) e.size) := by
  rw [selectedNamespaces, selectedNamespaces, topNamespaces_eq_elim, topNamespaces_eq_elim,
    globalNamespace?_insert h.ne_global]
  cases hroot : (arena (before ++ after)).globalNamespace? with
  | none => rfl
  | some root =>
    rw [Option.map_some, Option.elim_some, Option.elim_some, membersOf_eq, membersOf_eq,
      List.filter_filter, List.filter_filter]
    refine filter_top_insert (fun m => ?_) (Bool.eq_false_iff.mpr fun hnew => ?_)
    · rw [standsIn_insert, node_arena_insert]
      rfl
    · rw [Bool.and_eq_true, Bool.and_eq_true, (shows_insert before after e).kind_eq, beq_iff_eq,
        List.contains_iff_mem, Node.name, Node.name?,
        (shows_insert before after e).attribute?_eq] at hnew
      obtain ⟨hname, hkind, hin⟩ := hnew
      obtain ⟨id, hid, hcontext⟩ := exists_id_of_standsIn_insert hin
      have hglobal : (arena (before ++ after)).globalId? = some id := by
        rw [globalId?, hroot]
        exact hid
      rcases h.unselected hkind with hcontext' | hname'
      · exact hcontext' id hglobal hcontext
      · exact hname' hname

/-- An element that is unrelated to a document does not count. Wherever it is inserted directly
below the document element, the code, the report and the next number are the same, whatever was
asked before. If the document can be written, and the element can, then so can the two together. -/
theorem generate_eq_of_unrelated {options : Options} {text : String}
    (htext : ofText text = .ok unit) (hshows : List.Forall₂ unit.Shows unit.top (before ++ after))
    (h : unit.Unrelated options e) :
    ((∃ document : Markup.Document, document.elements = before ++ after) →
      (∀ inner ∈ e.subtrees, inner.Writable) →
      ∃ document : Markup.Document, document.elements = before ++ e :: after) ∧
    ∀ {text' unit'}, ofText text' = .ok unit' →
      List.Forall₂ unit'.Shows unit'.top (before ++ e :: after) →
      ∀ (base : Option Path) (file : Path) (counter : Counter) (journal journal' : Array Log.Notice)
        (asked asked' : List Question),
      ((unit'.generate base file options counter).run (unit'.sessionAfter journal' asked')).1 =
        ((unit.generate base file options counter).run (unit.sessionAfter journal asked)).1 := by
  obtain ⟨_, rfl, -⟩ := exists_elements htext
  obtain rfl := shows_unique (shows_arena _) hshows
  refine ⟨fun hdocument he => ?_, fun htext' hshows' base file counter _ _ _ _ => ?_⟩
  · rw [Markup.exists_document_iff] at hdocument ⊢
    intro inner hinner
    obtain ⟨root, hroot, hin⟩ := mem_subtreesAll.mp hinner
    rw [List.mem_append, List.mem_cons] at hroot
    rcases hroot with hbefore | rfl | hafter
    · exact hdocument inner (mem_subtreesAll.mpr ⟨root, List.mem_append_left _ hbefore, hin⟩)
    · exact he inner hin
    · exact hdocument inner (mem_subtreesAll.mpr ⟨root, List.mem_append_right _ hafter, hin⟩)
  · obtain ⟨_, rfl, -⟩ := exists_elements htext'
    obtain rfl := shows_unique (shows_arena _) hshows'
    refine ((counterparts_insert h.unmentioned).generate_eq base file options counter ?_ ?_ ?_
      _ _ _ _).symm
    · rw [selectedNamespaces_insert h, List.forall₂_map_right_iff, List.forall₂_same]
      exact fun _ _ => rfl
    · rintro n _ rfl hn
      have hother (hkind : (e.kind == .enumeration) = true) := h.undeclared (.inl (eq_of_beq hkind))
      rw [enumerationsIn, enumerationsIn, membersOf_insert fun hkind => hother hkind n hn,
        List.forall₂_map_right_iff, List.forall₂_same]
      exact fun _ _ => rfl
    · rintro n _ rfl hn
      rw [classesIn, classesIn, membersOf_insert fun hkind => h.undeclared (.inr hkind) n hn,
        List.forall₂_map_right_iff, List.forall₂_same]
      exact fun _ _ => rfl

/-- A namespace with a structure in it. -/
def plainStruct : Markup.Document :=
  .flat [declaration "Namespace" "_1" "::" "", declaration "Namespace" "_2" "a" "_1",
    declaration "Struct" "_3" "S" "_2"]

/-- The same, with a structure of the global namespace between them. -/
def plainStructBeside : Markup.Document :=
  .flat [declaration "Namespace" "_1" "::" "", declaration "Struct" "_4" "T" "_1",
    declaration "Namespace" "_2" "a" "_1", declaration "Struct" "_3" "S" "_2"]

/-- The structure of the global namespace does not count. -/
theorem generate_plainStruct_eq :
    (((arena plainStructBeside.elements).generate (some ⟨"/"⟩) ⟨"a.hh"⟩ ⟨["a"], none, "bind_"⟩
        ⟨1001⟩).run ((arena plainStructBeside.elements).sessionAfter #[] [])).1 =
      (((arena plainStruct.elements).generate (some ⟨"/"⟩) ⟨"a.hh"⟩ ⟨["a"], none, "bind_"⟩
        ⟨1001⟩).run ((arena plainStruct.elements).sessionAfter #[] [])).1 := by
  have hunrelated : (arena plainStruct.elements).Unrelated ⟨["a"], none, "bind_"⟩
      (.node "Struct" [("id", "_4"), ("name", "T"), ("context", "_1")] []) := {
    unmentioned := by
      intro inner hinner id hid
      obtain rfl := List.mem_singleton.mp hinner
      obtain rfl := Option.some.inj hid
      decide
    ne_global := by decide
    unselected := by decide
    undeclared := by decide }
  have hshows : List.Forall₂ (arena plainStruct.elements).Shows (arena plainStruct.elements).top
      (plainStruct.elements.take 1 ++ plainStruct.elements.drop 1) := shows_arena _
  exact (generate_eq_of_unrelated (ofText_text plainStruct (by decide)) hshows hunrelated).2
    (ofText_text plainStructBeside (by decide)) (shows_arena _) _ _ _ _ _ _ _

end TranslationUnit

end Bindery
