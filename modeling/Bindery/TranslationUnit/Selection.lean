import Bindery.TranslationUnit.Session

/-!
# What is declared where

The namespaces directly below the global one, and the enumerations and classes directly in a
namespace. All of them are found by comparing `context` with an id, among the nodes at the top, and
are listed in document order.
-/

namespace Bindery

namespace TranslationUnit

/-- The first global namespace at the top. -/
def globalNamespace? (unit : TranslationUnit) : Option NodeId :=
  unit.top.find? unit.isGlobal

/-- The nodes at the top of an accepted kind whose context is the given id. -/
def declaredIn (unit : TranslationUnit) (id : String) (accept : NodeKind → Bool) : List NodeId :=
  unit.top.filter fun n =>
    accept (unit.node n).kind && (unit.node n).attribute? "context" == some id

/-- The id of the global namespace, if there is one with an id. -/
def globalId? (unit : TranslationUnit) : Option String := do
  (unit.node (← unit.globalNamespace?)).id?

/-- The namespaces declared directly in the global one. -/
def topNamespaces (unit : TranslationUnit) : List NodeId :=
  match unit.globalId? with
  | some id => unit.declaredIn id (· == .nameSpace)
  | none => []

/-- Asks for the namespaces declared directly in the global one. The log is told if there is no
global namespace to start from. -/
def selectNamespaces (unit : TranslationUnit) : Query (List NodeId) := do
  if unit.globalId?.isNone then Session.tell .noGlobalNamespace
  return unit.topNamespaces

/-- The nodes of an accepted kind that are declared directly in the given one. -/
def membersOf (unit : TranslationUnit) (n : NodeId) (accept : NodeKind → Bool) : List NodeId :=
  match (unit.node n).id? with
  | some id => unit.declaredIn id accept
  | none => []

/-- The enumerations declared directly in a namespace. -/
def enumerationsIn (unit : TranslationUnit) (n : NodeId) : List NodeId :=
  unit.membersOf n (· == .enumeration)

/-- The classes and structures declared directly in a namespace. -/
def classesIn (unit : TranslationUnit) (n : NodeId) : List NodeId :=
  unit.membersOf n NodeKind.isClassLike

/-- The children of a node that are of the given kind. -/
def childrenOfKind (unit : TranslationUnit) (n : NodeId) (kind : NodeKind) : List NodeId :=
  (unit.node n).children.filter fun child => (unit.node child).kind == kind

/-- The values of an enumeration. -/
def enumValues (unit : TranslationUnit) (n : NodeId) : List NodeId :=
  unit.childrenOfKind n .enumValue

/-- The number of parameters of a function. -/
def argumentCount (unit : TranslationUnit) (n : NodeId) : Nat :=
  (unit.childrenOfKind n .argument).length

end TranslationUnit

end Bindery
