import Bindery.Member.Kind
import Std.Data.TreeMap

/-!
# Tables of member kinds

A table lists names with their kinds in the order in which the names were first recorded, and finds
the entry of a name by its position in that list.
-/

namespace Bindery

/-- Names with their kinds, in the order of first recording. -/
structure KindTable where
  /-- The entries in order. -/
  entries : Array (String × MemberKind)
  /-- The position of each recorded name among the entries. -/
  positions : Std.TreeMap String Nat

namespace KindTable

/-- Nothing recorded. -/
def empty : KindTable :=
  ⟨#[], ∅⟩

/-- Records a kind for a name. A name that is there already gets the merged kind, in its place. -/
def record (table : KindTable) (name : String) (kind : MemberKind) : KindTable :=
  match table.positions[name]? with
  | some i =>
    { table with entries := table.entries.modify i fun entry => (entry.1, entry.2.merge kind) }
  | none =>
    let place := table.entries.size
    ⟨table.entries.push (name, kind), table.positions.insert name place⟩

/-- The kind that recording a kind for a name leaves it with: the merged one if the name is there
already, and otherwise the kind itself. It is found through the position of the name. -/
def kindAfter? (table : KindTable) (name : String) (kind : MemberKind) : Option MemberKind :=
  match table.positions[name]? with
  | some i => (table.entries[i]?).map fun entry => entry.2.merge kind
  | none => some kind

/-- The kind recorded for a name. -/
def get? (table : KindTable) (name : String) : Option MemberKind := do
  let i ← table.positions[name]?
  let entry ← table.entries[i]?
  return entry.2

/-- The entries in the order of first recording. -/
def toList (table : KindTable) : List (String × MemberKind) :=
  table.entries.toList

/-- The number of names. -/
def size (table : KindTable) : Nat :=
  table.entries.size

/-- A table without any name. -/
def isEmpty (table : KindTable) : Bool :=
  table.entries.isEmpty

/-- The recorded names of one kind, in order. -/
def namesOf (table : KindTable) (kind : MemberKind) : List String :=
  (table.toList.filter (·.2 == kind)).map (·.1)

end KindTable

end Bindery
