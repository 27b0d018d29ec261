import Bindery.Markup.Event
import Bindery.TranslationUnit.Node

/-!
# From element boundaries to nodes

Each element below the document element becomes a node: one directly below it stands at the top,
a deeper one is a child of the element it is nested in. The document element itself is only counted,
and its attributes are never read. Attributes of the others are read when their element is reached,
so that the first fault in the text is the one reported. There is room for as many nodes as a number
of 32 bits can tell apart.
-/

namespace Bindery

/-- Why a text is no translation unit. -/
inductive DocumentError where
  /-- The text is not well-formed. -/
  | markup (cause : Markup.Error)
  /-- There is no element at all. -/
  | empty
  /-- The text ends inside the given number of elements. -/
  | truncated (unclosed : Nat)
  /-- There is no room for all its elements. -/
  | tooLarge
  deriving DecidableEq, Repr

/-- The wording of a document error. -/
def DocumentError.message : DocumentError → String
  | .markup cause => "XML parse failed: " ++ cause.message
  | .empty => "AST document has no root element"
  | .truncated unclosed =>
    "AST document ends with " ++ toString unclosed ++ " unclosed element(s)"
  | .tooLarge => "AST document has more nodes than an index can address"

/-- The wordings below that of the document error itself. -/
def DocumentError.causes : DocumentError → List String
  | .markup cause => cause.message :: cause.causes
  | _ => []

/-- The nodes met so far, and where the next one goes. -/
structure Forest where
  /-- All nodes, in document order, but each with its children latest first. -/
  nodes : Array Node
  /-- The nodes directly below the document element, latest first. -/
  top : List NodeId
  /-- The open elements below the document element, innermost first. -/
  opened : List NodeId
  /-- The number of open elements, the document element included. -/
  depth : Nat
  /-- Whether a document element was met. -/
  seen : Bool
  deriving DecidableEq, Repr

namespace Forest

/-- No element met yet. -/
def empty : Forest :=
  ⟨#[], [], [], 0, false⟩

/-- The greatest number of nodes: the number of a node has 32 bits. -/
def capacity : Nat := UInt32.size

/-- Adds a node below the innermost open element, or at the top if there is none. -/
def add (forest : Forest) (kind : NodeKind) (attributes : List (String × String)) : Forest :=
  let number := forest.nodes.size
  let nodes := forest.nodes.push ⟨kind, attributes, []⟩
  match forest.opened with
  | [] => { forest with nodes, top := number :: forest.top }
  | parent :: _ =>
    { forest with
      nodes := nodes.modify parent fun node =>
        { node with children := number :: node.children } }

/-- Adds the element that a tag begins, if there is room for it. At depth zero it is the document
element. -/
def enter (forest : Forest) (tag : Markup.Tag) : Except DocumentError Forest :=
  match forest.depth with
  | 0 => .ok { forest with seen := true }
  | _ + 1 => do
    let attributes ← tag.attributes.mapError .markup
    if forest.nodes.size < capacity then
      return forest.add (.ofName (String.ofList tag.name)) attributes
    else throw .tooLarge

/-- Leaves the element open that was added last, which at depth zero is the document element. -/
def descend (forest : Forest) : Forest :=
  match forest.depth with
  | 0 => { forest with depth := 1 }
  | depth + 1 =>
    { forest with opened := (forest.nodes.size - 1) :: forest.opened, depth := depth + 2 }

/-- The forest after one more element boundary. -/
def step (forest : Forest) : Markup.Event → Except DocumentError Forest
  | .empty tag => forest.enter tag
  | .opened tag => (forest.enter tag).map descend
  | .closed =>
    .ok { forest with opened := forest.opened.tail, depth := forest.depth - 1 }

/-- The forest that a reading describes, if all its elements are closed and there is one. -/
def ofReading (reading : Markup.Reading) : Except DocumentError Forest := do
  let forest ← reading.events.foldlM step empty
  match reading.fault with
  | some cause => .error (.markup cause)
  | none =>
    if 0 < forest.depth then .error (.truncated forest.depth)
    else if forest.seen then .ok forest
    else .error .empty

end Forest

end Bindery
