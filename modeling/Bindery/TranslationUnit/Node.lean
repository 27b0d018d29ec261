import Bindery.Text.Blank

/-!
# Nodes of a translation unit

A parsed C++ translation unit is a collection of elements: what kind of declaration each is, its
attributes, and the elements nested in it. Nodes are known by their number in document order.
-/

namespace Bindery

/-- The number of a node: its position among all nodes, in document order. -/
abbrev NodeId := Nat

/-- What an element declares. -/
inductive NodeKind where
  /-- A source file. -/
  | file
  /-- A namespace. -/
  | nameSpace
  /-- An enumeration. -/
  | enumeration
  /-- A value of an enumeration. -/
  | enumValue
  /-- A class declared as such. -/
  | classType
  /-- A class declared as a structure. -/
  | structType
  /-- A data member. -/
  | field
  /-- A member function. -/
  | method
  /-- A parameter. -/
  | argument
  /-- A built-in type. -/
  | fundamentalType
  /-- Anything else, under the element's own name. -/
  | other (name : String)
  deriving DecidableEq, Repr

namespace NodeKind

/-- The kinds that have an element name of their own. -/
def known : List (String × NodeKind) :=
  [("File", .file), ("Namespace", .nameSpace), ("Enumeration", .enumeration),
    ("EnumValue", .enumValue), ("Class", .classType), ("Struct", .structType), ("Field", .field),
    ("Method", .method), ("Argument", .argument), ("FundamentalType", .fundamentalType)]

/-- The kind that an element name stands for. -/
def ofName (name : String) : NodeKind :=
  (known.lookup name).getD (.other name)

/-- The element name of a kind. -/
def name : NodeKind → String
  | .file => "File"
  | .nameSpace => "Namespace"
  | .enumeration => "Enumeration"
  | .enumValue => "EnumValue"
  | .classType => "Class"
  | .structType => "Struct"
  | .field => "Field"
  | .method => "Method"
  | .argument => "Argument"
  | .fundamentalType => "FundamentalType"
  | .other name => name

/-- Classes and structures are bound alike. -/
def isClassLike : NodeKind → Bool
  | .classType => true
  | .structType => true
  | _ => false

/-- A kind without an element name of its own. -/
def isOther : NodeKind → Bool
  | .other _ => true
  | _ => false

end NodeKind

/-- The access level of a member. -/
inductive Access where
  /-- Open to all. -/
  | everyone
  /-- Open to derived classes. -/
  | derived
  /-- Open to the class alone. -/
  | own
  deriving DecidableEq, Repr

namespace Access

/-- Whatever is not explicitly protected or private is public. -/
def ofAttribute : Option String → Access
  | some "protected" => .derived
  | some "private" => .own
  | _ => .everyone

/-- The word for an access level. -/
def name : Access → String
  | .everyone => "public"
  | .derived => "protected"
  | .own => "private"

end Access

/-- An element below the document element. -/
structure Node where
  /-- What the element declares. -/
  kind : NodeKind
  /-- The attributes in document order. -/
  attributes : List (String × String)
  /-- The nested elements in document order. -/
  children : List NodeId
  deriving DecidableEq, Repr

namespace Node

/-- The value of an attribute. -/
def attribute? (node : Node) (key : String) : Option String :=
  node.attributes.lookup key

/-- The id that other elements refer to. -/
def id? (node : Node) : Option String :=
  node.attribute? "id"

/-- The declared name. -/
def name? (node : Node) : Option String :=
  node.attribute? "name"

/-- The declared name, or the empty one. -/
def name (node : Node) : String :=
  node.name?.getD ""

/-- An attribute that lists ids between blanks. -/
def idList (node : Node) (key : String) : List String :=
  (Text.words ((node.attribute? key).getD "").toList).map String.ofList

/-- The access level. -/
def access (node : Node) : Access :=
  .ofAttribute (node.attribute? "access")

/-- A static member. -/
def isStatic (node : Node) : Bool :=
  node.attribute? "static" == some "1"

/-- A member function that may be called on constant objects. -/
def isConst (node : Node) : Bool :=
  node.attribute? "const" == some "1"

/-- The name of the global namespace. -/
def globalName : String := "::"

/-- The global namespace, under which all others are declared. -/
def isGlobalNamespace (node : Node) : Bool :=
  node.kind == .nameSpace && node.name? == some globalName

/-- A node that nothing is known of. -/
def blank : Node :=
  ⟨.other "", [], []⟩

end Node

end Bindery
