import Bindery.Path
import Bindery.TranslationUnit.Forest
import Std.Data.TreeMap

/-!
# Translation units

A translation unit holds its nodes and finds them by number or by id. Where several nodes carry one
id, the first of them in document order answers to it.
-/

namespace Bindery

namespace TranslationUnit

/-- Enters the id of a numbered node into a table, unless the id is taken. -/
def indexStep (table : Std.TreeMap String NodeId) (entry : Node × NodeId) :
    Std.TreeMap String NodeId :=
  match entry.1.id? with
  | some id => table.insertIfNew id entry.2
  | none => table

/-- For each id the first node that carries it. -/
def indexIds (nodes : Array Node) : Std.TreeMap String NodeId :=
  nodes.toList.zipIdx.foldl indexStep ∅

end TranslationUnit

/-- The declarations of one C++ translation unit. -/
structure TranslationUnit where
  /-- All nodes, in document order. -/
  nodes : Array Node
  /-- The nodes directly below the document element, in document order. -/
  top : List NodeId
  /-- For each id the first node that carries it. -/
  ids : Std.TreeMap String NodeId := TranslationUnit.indexIds nodes
  /-- The table of ids is that of the nodes. -/
  ids_eq : ids = TranslationUnit.indexIds nodes := by rfl

namespace TranslationUnit

/-- Entering a list of nodes keeps what the table holds and adds the first node for each new id. -/
theorem getElem?_foldl_indexStep (id : String) (entries : List (Node × NodeId))
    (table : Std.TreeMap String NodeId) :
    (entries.foldl indexStep table)[id]? =
      (table[id]?).or ((entries.find? (·.1.id? == some id)).map (·.2)) := by
  induction entries generalizing table with
  | nil => simp
  | cons entry entries ih =>
    rw [List.foldl_cons, ih]
    cases hid : entry.1.id? with
    | none => simp [indexStep, hid]
    | some own =>
      simp only [indexStep, hid, Std.TreeMap.getElem?_insertIfNew, List.find?_cons]
      by_cases hown : own = id
      · subst hown
        by_cases hmem : own ∈ table <;> simp [hmem]
      · have hne : compare own id ≠ .eq := fun h => hown (Std.LawfulEqOrd.eq_of_compare h)
        simp [hne, beq_eq_false_iff_ne.2 hown]

/-- The translation unit of a finished forest. -/
def ofForest (forest : Forest) : TranslationUnit where
  nodes := forest.nodes.map fun node => { node with children := node.children.reverse }
  top := forest.top.reverse

/-- Reads a translation unit from its text. -/
def ofText (text : String) : Except DocumentError TranslationUnit :=
  (Forest.ofReading (.ofText text.toList)).map ofForest

/-- The number of nodes. -/
def size (unit : TranslationUnit) : Nat :=
  unit.nodes.size

/-- The node of the given number. Numbers that come from the unit itself always have one. -/
def node (unit : TranslationUnit) (n : NodeId) : Node :=
  unit.nodes[n]?.getD .blank

/-- The first node that carries the id. -/
def byId? (unit : TranslationUnit) (id : String) : Option NodeId :=
  unit.ids[id]?

/-- The first node that carries the id, if it is of an accepted kind. -/
def byIdOfKind? (unit : TranslationUnit) (id : String) (accept : NodeKind → Bool) :
    Option NodeId :=
  (unit.byId? id).filter fun n => accept (unit.node n).kind

/-- An id is answered by the first node that carries it. -/
theorem byId?_eq (unit : TranslationUnit) (id : String) :
    unit.byId? id = (unit.nodes.toList.zipIdx.find? (·.1.id? == some id)).map (·.2) := by
  rw [byId?, unit.ids_eq, indexIds, getElem?_foldl_indexStep]
  simp

/-- The node that answers to an id is one of the unit. -/
theorem lt_size_of_byId? {unit : TranslationUnit} {id : String} {n : NodeId}
    (h : unit.byId? id = some n) : n < unit.size := by
  rw [byId?_eq] at h
  obtain ⟨⟨node, m⟩, hfind, rfl⟩ := Option.map_eq_some_iff.1 h
  have hmem := List.mem_of_find?_eq_some hfind
  obtain ⟨_, hlt, _⟩ := List.mem_zipIdx hmem
  simpa [size] using hlt

/-- The global namespace is found by its kind and name, wherever it stands. -/
def isGlobal (unit : TranslationUnit) (n : NodeId) : Bool :=
  (unit.node n).isGlobalNamespace

/-- The scope that a node is declared in, unless that is the global one or cannot be found. -/
def scope? (unit : TranslationUnit) (n : NodeId) : Option NodeId := do
  let context ← (unit.node n).attribute? "context"
  let scope ← unit.byId? context
  if unit.isGlobal scope then none else some scope

/-- A node is the global namespace if its kind and its name say so. -/
theorem isGlobal_iff {unit : TranslationUnit} {n : NodeId} :
    unit.isGlobal n = true ↔ (unit.node n).kind = .nameSpace ∧ (unit.node n).name? = some "::" := by
  rw [isGlobal, Node.isGlobalNamespace, Bool.and_eq_true, beq_iff_eq, beq_iff_eq, Node.globalName]

/-- The scope of a node is the first one that carries the id which the node tells as its context,
if that is not the global namespace. -/
theorem scope?_eq_some_iff {unit : TranslationUnit} {n scope : NodeId} :
    unit.scope? n = some scope ↔ ∃ context, (unit.node n).attribute? "context" = some context ∧
      unit.byId? context = some scope ∧ unit.isGlobal scope = false := by
  simp only [scope?, Option.bind_eq_bind, Option.bind_eq_some_iff]
  refine exists_congr fun context => and_congr_right fun _ => ?_
  constructor
  · rintro ⟨found, hfound, hscope⟩
    split at hscope
    · cases hscope
    next hlocal =>
      cases hscope
      exact ⟨hfound, Bool.eq_false_iff.mpr hlocal⟩
  · rintro ⟨hfound, hlocal⟩
    exact ⟨scope, hfound, by rw [hlocal]; rfl⟩

/-- The scope of a node is one of the unit's nodes. -/
theorem lt_size_of_scope? {unit : TranslationUnit} {n scope : NodeId}
    (h : unit.scope? n = some scope) : scope < unit.size := by
  obtain ⟨context, -, hfound, -⟩ := scope?_eq_some_iff.mp h
  exact lt_size_of_byId? hfound

/-- The canonical path of the file that a node is declared in, as seen from the directory `base`, if
there is one: the `file` attribute leads to a file node with a name that is not empty. -/
def sourceFile? (unit : TranslationUnit) (base : Option Path) (n : NodeId) : Option Path := do
  let id ← (unit.node n).attribute? "file"
  let file ← unit.byIdOfKind? id (· == .file)
  let name ← (unit.node file).name?
  if name.isEmpty then none else Path.absolute? base ⟨name⟩

end TranslationUnit

end Bindery
