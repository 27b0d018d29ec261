import Bindery.Binding.Name
import Bindery.Member.KindTable
import Bindery.TranslationUnit.Selection

/-!
# The members of a class

A class lists its members by id. The public, non-static ones with a name that may be bound are
sorted into data members and methods, and each method name gets a kind from the signatures under it.
-/

namespace Bindery

/-- The members of a class that may be bound. -/
structure Members where
  /-- The data members. -/
  fields : KindTable
  /-- The methods by name. -/
  methods : KindTable

namespace Members

/-- No members. -/
def empty : Members :=
  ⟨.empty, .empty⟩

/-- Records a data member. Only the first one of a name counts. -/
def recordField (members : Members) (name : String) : Members :=
  if (members.fields.get? name).isSome then members
  else { members with fields := members.fields.record name .data }

/-- Records a method. -/
def recordMethod (members : Members) (name : String) (kind : MemberKind) : Members :=
  { members with methods := members.methods.record name kind }

/-- The names of methods that cannot be told apart. -/
def ambiguous (members : Members) : List String :=
  members.methods.namesOf .ambiguous

/-- A class with data members and no method at all is passed by value. -/
def isPlainData (members : Members) : Bool :=
  !members.fields.isEmpty && members.methods.isEmpty

end Members

/-- A member that may be bound: public, not static, and with a name that is not reserved. -/
def Node.isVisible (node : Node) : Bool :=
  node.access == .everyone && !node.isStatic && Binding.isBindable node.name?

namespace TranslationUnit

/-- A method whose return type is the built-in `void`. A type that cannot be found is another. -/
def returnsVoid (unit : TranslationUnit) (method : NodeId) : Bool :=
  match (unit.node method).attribute? "returns" with
  | some id =>
    match unit.byIdOfKind? id (· == .fundamentalType) with
    | some type => (unit.node type).name? == some "void"
    | none => false
  | none => false

/-- The kind of a method by its signature. -/
def methodKind (unit : TranslationUnit) (method : NodeId) : MemberKind :=
  let isConst := (unit.node method).isConst
  match unit.returnsVoid method, unit.argumentCount method with
  | true, 1 => if isConst then .function else .setter
  | false, 0 => if isConst then .getter else .function
  | _, _ => .function

/-- The members after one more node that a class lists. -/
def recordMember (unit : TranslationUnit) (members : Members) (n : NodeId) : Members :=
  let node := unit.node n
  if node.isVisible then
    match node.kind with
    | .field => members.recordField node.name
    | .method => members.recordMethod node.name (unit.methodKind n)
    | _ => members
  else members

/-- The members after one more id that a class lists. -/
def classifyId (unit : TranslationUnit) (members : Members) (id : String) : Query Members :=
  match unit.byId? id with
  | some n => return unit.recordMember members n
  | none => do
    Session.tell (.unknownMember id)
    return members

/-- The members of a class that may be bound. -/
def classify (unit : TranslationUnit) (n : NodeId) : Query Members :=
  ((unit.node n).idList "members").foldlM unit.classifyId .empty

end TranslationUnit

end Bindery
