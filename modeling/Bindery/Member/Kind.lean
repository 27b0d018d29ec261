/-!
# Kinds of members

How a member of a class is reached from outside, and what becomes of several methods that share one
name: a getter and a setter together are one accessor, any other set of overloads is ambiguous.
-/

namespace Bindery

/-- How a member is reached. -/
inductive MemberKind where
  /-- A public data member. -/
  | data
  /-- A constant method without parameters that returns a value. -/
  | getter
  /-- A method with one parameter that returns nothing. -/
  | setter
  /-- A getter and a setter of one name. -/
  | accessor
  /-- Any other method. -/
  | function
  /-- Several methods of one name that cannot be told apart. -/
  | ambiguous
  deriving DecidableEq, Repr

namespace MemberKind

/-- The kind of a name that had the first kind and is met once more with the second. -/
def merge : MemberKind → MemberKind → MemberKind
  | .getter, .setter => .accessor
  | .setter, .getter => .accessor
  | _, _ => .ambiguous

/-- Ambiguous names are left out of the bindings. -/
def isBound : MemberKind → Bool
  | .ambiguous => false
  | _ => true

/-- The word for a kind. -/
def name : MemberKind → String
  | .data => "variable"
  | .getter => "getter"
  | .setter => "setter"
  | .accessor => "getter-setter"
  | .function => "function"
  | .ambiguous => "duplicate"

end MemberKind

end Bindery
