import Bindery.Path

/-!
# Names that may be bound

A name that begins or ends with an underscore belongs to the implementation and is never bound. The
registration function of an input file is named after the file's base name.
-/

namespace Bindery.Binding

/-- A name that begins or ends with an underscore. -/
def isReserved (name : String) : Bool :=
  name.toList.head? == some '_' || name.toList.getLast? == some '_'

/-- A name that may be bound: present, not empty and not reserved. -/
def isBindable : Option String → Bool
  | some name => !name.isEmpty && !isReserved name
  | none => false

/-- A letter or digit of ASCII stands for itself in an identifier, any other character for `_`. -/
def identifierChar (c : Char) : Char :=
  if c.isAlphanum then c else '_'

/-- What the base name of a file contributes to an identifier, for instance `engine_cc`. -/
def fileIdentifier (file : Path) : String :=
  String.ofList ((file.fileName?.getD []).map identifierChar)

end Bindery.Binding
