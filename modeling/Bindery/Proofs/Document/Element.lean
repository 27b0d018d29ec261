import Bindery.TranslationUnit.Basic
import Mathlib.Data.List.Forall2

/-!
# Elements as trees

A document is a list of element trees below its document element. Numbered in document order, the
elements become the nodes of a translation unit, the arena of the trees. `Shows` says the same the
other way round: which tree stands at a node of a translation unit.
-/

namespace Bindery

/-- The element name of a kind is the name that the kind was found by. -/
theorem NodeKind.name_ofName (name : String) : (NodeKind.ofName name).name = name := by
  have hknown : ∀ entry ∈ known, entry.2.name = entry.1 := by decide
  rw [ofName]
  cases hlookup : known.lookup name with
  | none => rfl
  | some kind =>
    obtain ⟨_, _, hsplit, _⟩ := List.lookup_eq_some_iff.mp hlookup
    exact hknown (name, kind) (by rw [hsplit]; simp)

/-- An element with all that is nested in it. -/
inductive Element where
  /-- An element of the given name and attributes, with the elements nested directly in it. -/
  | node (name : String) (attributes : List (String × String)) (children : List Element)

namespace Element

variable {α : Type} {start : Nat}

/-- The element's name. -/
def name : Element → String
  | node name _ _ => name

/-- The element's attributes, in order. -/
def attributes : Element → List (String × String)
  | node _ attributes _ => attributes

/-- The elements nested directly in it, in order. -/
def children : Element → List Element
  | node _ _ children => children

/-- What the element declares. -/
def kind (e : Element) : NodeKind :=
  .ofName e.name

/-- Lists of trees are built from the first tree's children and from the trees after it. -/
@[elab_as_elim]
theorem listInduction {motive : List Element → Prop} (nil : motive [])
    (cons : ∀ name attributes children rest, motive children → motive rest →
      motive (node name attributes children :: rest)) : ∀ elements, motive elements
  | [] => nil
  | node name attributes children :: rest =>
    cons name attributes children rest (listInduction nil cons children)
      (listInduction nil cons rest)

mutual

/-- The number of elements of a tree. -/
def size : Element → Nat
  | node _ _ children => sizeAll children + 1

/-- The number of elements of a list of trees. -/
def sizeAll : List Element → Nat
  | [] => 0
  | e :: rest => e.size + sizeAll rest

end

/-- Lists of trees have the elements of both together. -/
theorem sizeAll_append (elements later : List Element) :
    sizeAll (elements ++ later) = sizeAll elements + sizeAll later := by
  induction elements with
  | nil => exact (Nat.zero_add _).symm
  | cons e rest ih => rw [List.cons_append, sizeAll, ih, sizeAll, Nat.add_assoc]

/-- The numbers of the roots of a list of trees, in document order from a given number on. -/
def roots (start : Nat) : List Element → List NodeId
  | [] => []
  | e :: rest => start :: roots (start + e.size) rest

mutual

/-- The nodes of a tree, in document order from a given number on. -/
def nodes (start : Nat) : Element → List Node
  | node name attributes children =>
    ⟨.ofName name, attributes, roots (start + 1) children⟩ :: nodesAll (start + 1) children

/-- The nodes of a list of trees, in document order from a given number on. -/
def nodesAll (start : Nat) : List Element → List Node
  | [] => []
  | e :: rest => e.nodes start ++ nodesAll (start + e.size) rest

end

mutual

/-- A tree and all the trees nested in it. -/
def subtrees : Element → List Element
  | node name attributes children => node name attributes children :: subtreesAll children

/-- The trees of a list and all the trees nested in them. -/
def subtreesAll : List Element → List Element
  | [] => []
  | e :: rest => e.subtrees ++ subtreesAll rest

end

/-- The roots of later trees are numbered behind the elements of earlier ones. -/
theorem roots_append (elements later : List Element) :
    roots start (elements ++ later) =
      roots start elements ++ roots (start + sizeAll elements) later := by
  induction elements generalizing start with
  | nil => simp [roots, sizeAll]
  | cons e rest ih => simp [roots, sizeAll, ih, Nat.add_assoc]

/-- The nodes of later trees are numbered behind those of earlier ones. -/
theorem nodesAll_append (elements later : List Element) :
    nodesAll start (elements ++ later) =
      nodesAll start elements ++ nodesAll (start + sizeAll elements) later := by
  induction elements generalizing start with
  | nil => simp [nodesAll, sizeAll]
  | cons e rest ih => simp [nodesAll, sizeAll, ih, Nat.add_assoc]

/-- There are as many nodes as elements. -/
theorem length_nodesAll (start : Nat) (elements : List Element) :
    (nodesAll start elements).length = sizeAll elements := by
  induction elements using listInduction generalizing start with
  | nil => rfl
  | cons name attributes children rest ihchildren ihrest =>
    simp only [nodesAll, nodes, List.length_append, List.length_cons, ihchildren, ihrest, sizeAll,
      size]

/-- A tree is nested in a list of trees if it is in one of them. -/
theorem mem_subtreesAll {e : Element} {elements : List Element} :
    e ∈ subtreesAll elements ↔ ∃ root ∈ elements, e ∈ root.subtrees := by
  induction elements with
  | nil => simp [subtreesAll]
  | cons first rest ih => simp [subtreesAll, ih]

/-- No root comes before the number at which the numbering starts. -/
theorem le_of_mem_roots {n : Nat} {elements : List Element} (h : n ∈ roots start elements) :
    start ≤ n := by
  induction elements generalizing start with
  | nil => cases h
  | cons e rest ih =>
    rcases List.mem_cons.mp h with rfl | hrest
    · exact Nat.le_refl n
    · exact Nat.le_of_add_right_le (ih hrest)

/-- Roots are numbered in increasing order. -/
theorem pairwise_roots (start : Nat) (elements : List Element) :
    (roots start elements).Pairwise (· < ·) := by
  induction elements generalizing start with
  | nil => exact .nil
  | cons e rest ih =>
    refine .cons (fun n hn => ?_) (ih _)
    have hsize : 0 < e.size := by cases e; exact Nat.succ_pos _
    exact Nat.lt_of_lt_of_le (Nat.lt_add_of_pos_right hsize) (le_of_mem_roots hn)

end Element

namespace TranslationUnit

open Element

/-- The translation unit of a document with the given trees below its document element. -/
def arena (elements : List Element) : TranslationUnit where
  nodes := (nodesAll 0 elements).toArray
  top := roots 0 elements

/-- The tree that stands at a node of a translation unit. -/
inductive Shows (unit : TranslationUnit) : NodeId → Element → Prop
  | intro {n : NodeId} {name : String} {attributes : List (String × String)}
      {children : List Element} (hlt : n < unit.size)
      (hkind : (unit.node n).kind = .ofName name)
      (hattributes : (unit.node n).attributes = attributes)
      (hchildren : List.Forall₂ (Shows unit) (unit.node n).children children) :
      Shows unit n (.node name attributes children)

variable {unit : TranslationUnit} {start n : Nat} {elements : List Element}

/-- A node of a translation unit is one of its array. -/
theorem node_eq_of_getElem? {found : Node} (h : unit.nodes[n]? = some found) :
    unit.node n = found := by
  rw [node, h, Option.getD_some]

/-- The nodes of a list of trees stand in a translation unit from the number `start` on. -/
def Holds (unit : TranslationUnit) (start : Nat) (nodes : List Node) : Prop :=
  nodes <+: unit.nodes.toList.drop start

/-- The first of the nodes stands at the first number, and the others behind it. -/
theorem Holds.of_cons {first : Node} {rest : List Node} (h : unit.Holds start (first :: rest)) :
    unit.nodes[start]? = some first ∧ unit.Holds (start + 1) rest := by
  obtain ⟨after, hafter⟩ := h
  have hhead : (unit.nodes.toList.drop start)[0]? = some first := by rw [← hafter]; rfl
  have htail : unit.nodes.toList.drop (start + 1) = rest ++ after := by
    rw [← List.drop_drop, ← hafter]
    rfl
  rw [List.getElem?_drop, Nat.add_zero, Array.getElem?_toList] at hhead
  exact ⟨hhead, after, htail.symm⟩

/-- Two lists of nodes stand one behind the other. -/
theorem Holds.of_append {nodes later : List Node} (h : unit.Holds start (nodes ++ later)) :
    unit.Holds start nodes ∧ unit.Holds (start + nodes.length) later := by
  obtain ⟨after, hafter⟩ := h
  have hlater : unit.nodes.toList.drop (start + nodes.length) = later ++ after := by
    rw [← List.drop_drop, ← hafter, List.append_assoc, List.drop_left]
  exact ⟨⟨later ++ after, by rw [← hafter, List.append_assoc]⟩, after, hlater.symm⟩

/-- The pieces of an arena that the first tree of a list and the trees after it make up. -/
theorem Holds.of_node {name : String} {attributes : List (String × String)}
    {children rest : List Element}
    (h : unit.Holds start (nodesAll start (.node name attributes children :: rest))) :
    unit.nodes[start]? = some ⟨.ofName name, attributes, roots (start + 1) children⟩ ∧
      unit.Holds (start + 1) (nodesAll (start + 1) children) ∧
      unit.Holds (start + (sizeAll children + 1))
        (nodesAll (start + (sizeAll children + 1)) rest) := by
  rw [nodesAll, Element.nodes, List.cons_append] at h
  obtain ⟨hnode, hothers⟩ := h.of_cons
  obtain ⟨hchildren, hrest⟩ := hothers.of_append
  rw [length_nodesAll, Nat.add_assoc, Nat.add_comm 1] at hrest
  exact ⟨hnode, hchildren, hrest⟩

/-- Where the nodes of a list of trees stand, the trees themselves do. -/
theorem Holds.shows (h : unit.Holds start (nodesAll start elements)) :
    List.Forall₂ unit.Shows (roots start elements) elements := by
  induction elements using listInduction generalizing start with
  | nil => exact .nil
  | cons name attributes children rest ihchildren ihrest =>
    obtain ⟨hnode, hchildren, hrest⟩ := h.of_node
    have hlt : start < unit.size := (Array.getElem?_eq_some_iff.mp hnode).1
    have heq := node_eq_of_getElem? hnode
    refine .cons (.intro hlt (by rw [heq]) (by rw [heq]) ?_) (ihrest hrest)
    rw [heq]
    exact ihchildren hchildren

/-- Each node of a list of trees is the place of one of their subtrees. -/
theorem Holds.exists_shows (h : unit.Holds start (nodesAll start elements)) (hstart : start ≤ n)
    (hn : n < start + sizeAll elements) : ∃ e ∈ subtreesAll elements, unit.Shows n e := by
  induction elements using listInduction generalizing start with
  | nil => simp only [sizeAll] at hn; omega
  | cons name attributes children rest ihchildren ihrest =>
    obtain ⟨_, hchildren, hrest⟩ := h.of_node
    simp only [sizeAll, Element.size] at hn
    simp only [subtreesAll, subtrees]
    by_cases hroot : n = start
    · cases h.shows with
      | cons hshows _ =>
        exact ⟨_, List.mem_append_left _ List.mem_cons_self, by rwa [hroot]⟩
    · by_cases hin : n < start + 1 + sizeAll children
      · obtain ⟨e, he, hshows⟩ := ihchildren hchildren (by omega) hin
        exact ⟨e, List.mem_append_left _ (List.mem_cons_of_mem _ he), hshows⟩
      · obtain ⟨e, he, hshows⟩ := ihrest hrest (by omega) (by omega)
        exact ⟨e, List.mem_append_right _ he, hshows⟩

/-- Each subtree of a list of trees stands at a node. -/
theorem Holds.exists_node (h : unit.Holds start (nodesAll start elements)) {e : Element}
    (he : e ∈ subtreesAll elements) : ∃ n, unit.Shows n e := by
  induction elements using listInduction generalizing start with
  | nil => cases he
  | cons name attributes children rest ihchildren ihrest =>
    obtain ⟨_, hchildren, hrest⟩ := h.of_node
    rw [subtreesAll, subtrees, List.cons_append, List.mem_cons, List.mem_append] at he
    rcases he with rfl | hin | hin
    · cases h.shows with
      | cons hshows _ => exact ⟨start, hshows⟩
    · exact ihchildren hchildren hin
    · exact ihrest hrest hin

/-- Only one list of trees stands at a list of nodes. -/
theorem shows_unique {numbers : List NodeId} {elements elements' : List Element}
    (h : List.Forall₂ unit.Shows numbers elements)
    (h' : List.Forall₂ unit.Shows numbers elements') : elements = elements' := by
  induction elements using listInduction generalizing numbers elements' with
  | nil =>
    cases h
    cases h'
    rfl
  | cons name attributes children rest ihchildren ihrest =>
    cases h with
    | cons hshows hrest =>
      cases h' with
      | cons hshows' hrest' =>
        cases hshows with
        | intro _ hkind hattributes hchildren =>
          cases hshows' with
          | intro _ hkind' hattributes' hchildren' =>
            have hname := congrArg NodeKind.name (hkind.symm.trans hkind')
            rw [NodeKind.name_ofName, NodeKind.name_ofName] at hname
            rw [hname, ← hattributes, ← hattributes', ihchildren hchildren hchildren',
              ihrest hrest hrest']

/-- The arena of a list of trees holds their nodes. -/
theorem holds_arena (elements : List Element) :
    (arena elements).Holds 0 (nodesAll 0 elements) := by
  simp [Holds, arena]

/-- The arena of a list of trees has a node for each element. -/
theorem size_arena (elements : List Element) : (arena elements).size = sizeAll elements := by
  simp [arena, TranslationUnit.size, length_nodesAll]

/-- No node stands at the top of an arena twice. -/
theorem nodup_top_arena (elements : List Element) : (arena elements).top.Nodup :=
  (pairwise_roots 0 elements).imp Nat.ne_of_lt

/-- The trees of a document stand at the top of its arena. -/
theorem shows_arena (elements : List Element) :
    List.Forall₂ (arena elements).Shows (arena elements).top elements :=
  (holds_arena elements).shows

/-- Every node of an arena is the place of an element. -/
theorem exists_shows_arena (hn : n < (arena elements).size) :
    ∃ e ∈ subtreesAll elements, (arena elements).Shows n e :=
  (holds_arena elements).exists_shows (Nat.zero_le n) (by rwa [Nat.zero_add, ← size_arena])

/-- Every element of a document stands at a node of its arena. -/
theorem exists_node_arena {e : Element} (he : e ∈ subtreesAll elements) :
    ∃ n, (arena elements).Shows n e :=
  (holds_arena elements).exists_node he

end TranslationUnit

end Bindery
