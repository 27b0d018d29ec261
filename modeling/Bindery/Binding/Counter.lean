/-!
# Numbered identifiers

Every statement of the generated code declares an identifier with a number of its own. One counter
serves all files of a run, so that no two statements share an identifier.
-/

namespace Bindery.Binding

/-- The source of the numbers. It has 64 bits; behind the largest number it would start again with
`0`. -/
structure Counter where
  /-- The number that the next identifier gets. -/
  next : UInt64
  deriving DecidableEq, Repr

/-- The first number where nothing else is asked for. -/
def Counter.defaultStart : UInt64 := 1001

/-- An identifier: a word, `_` and a number. -/
def numbered (word : String) (n : Nat) : String :=
  word ++ "_" ++ toString n

/-- Draws the next identifier that begins with the given word. -/
def Counter.draw (word : String) : StateM Counter String :=
  modifyGet fun counter => (numbered word counter.next.toNat, ⟨counter.next + 1⟩)

end Bindery.Binding
