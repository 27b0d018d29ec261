import Bindery.Text.Pattern.Atom

/-!
# Sets of characters

Sets in brackets: characters, ranges, families, sets with names, sets in sets, and operators between
them. A set is read for how deeply it is nested.
-/

namespace Bindery.Text.Pattern

/-- How deeply a pattern may be nested. -/
def nestingLimit : Nat := 250

/-- Parts in a row: how many they are, and how deeply the deepest of them is nested. -/
structure Row where
  /-- The number of parts. -/
  count : Nat := 0
  /-- The depth of the deepest part. -/
  deepest : Nat := 0
  deriving DecidableEq, Repr

/-- One more part. -/
def Row.add (row : Row) (depth : Nat) : Row :=
  ⟨row.count + 1, max row.deepest depth⟩

/-- How deeply a row is nested. Two parts and more are a level of their own. -/
def Row.depth (row : Row) : Nat :=
  if row.count < 2 then row.deepest else row.deepest + 1

/-- A set as far as it has been read. -/
structure SetParts where
  /-- The depth of what stands in front of the last operator. -/
  operand? : Option Nat := none
  /-- The members behind it. -/
  members : Row := {}
  deriving DecidableEq, Repr

namespace SetParts

/-- One more member. -/
def add (parts : SetParts) (depth : Nat) : SetParts :=
  { parts with members := parts.members.add depth }

/-- How deeply the set is nested. Each operator is a level over what it joins. -/
def depth (parts : SetParts) : Nat :=
  match parts.operand? with
  | none => parts.members.depth
  | some operand => max operand parts.members.depth + 1

end SetParts

/-- The names of sets. -/
def setNames : List String :=
  ["alnum", "alpha", "ascii", "blank", "cntrl", "digit", "graph", "lower", "print", "punct",
    "space", "upper", "word", "xdigit"]

/-- A set given by its name, and whether it is all characters but these. -/
def namedSet : Reader Bool := do
  Reader.chars "[:"
  let mark ← Reader.optional (Reader.char '^')
  let name ← Reader.run1 Char.isAlpha
  Reader.chars ":]"
  if String.ofList name ∈ setNames then return mark.isSome else failure

/-- Whether a set given by its name, or all characters but these, can stand in a set. -/
def Rules.admitsNamed (rules : Rules) (isComplement : Bool) : Bool :=
  if rules.isWide then !rules.foldsCase else !isComplement

/-- An operator between sets. -/
def setOperator : Reader Unit :=
  Reader.chars "&&" <|> Reader.chars "--" <|> Reader.chars "~~"

/-- What follows the next character and is no space, as it is seen from there: of a comment only the
`#` is passed over. -/
def behindNext? (rules : Rules) (text : List Char) : Option Char :=
  let rest := text.tail
  if rules.isSpaced then
    match rest.dropWhile isBlank with
    | '#' :: comment => (comment.dropWhile isBlank).head?
    | shown => shown.head?
  else rest.head?

/-- A `-` between the ends of a range, which is not before the end of the set or another `-`. -/
def rangeMark (rules : Rules) : Reader Unit := fun text =>
  match behindNext? rules text with
  | some ']' | some '-' => none
  | _ => Reader.char '-' text

/-- One character or family of a set. -/
def memberAtom (rules : Rules) : Reader Atom := do
  let atom ← (Reader.char '\\' *> escaped rules)
    <|> (do return .char (← Reader.satisfying (· != '\\')))
  if rules.admitsInSet atom then return atom else failure

/-- A character or family, or a range whose ends are characters in order. -/
def member (rules : Rules) : Reader Unit := do
  let _ ← Reader.ahead (Reader.satisfying fun c => c != ']' && c != '[')
  let low ← memberAtom rules
  rules.space
  if (← Reader.optional (rangeMark rules)).isSome then
    rules.space
    match low.char?, (← memberAtom rules).char? with
    | some first, some last => if first ≤ last then pure () else failure
    | _, _ => failure

/-- The next part of a set, in which others are read by `nested`. -/
def setStep (nested : Reader Nat) (rules : Rules) (parts : SetParts) : Reader SetParts := do
  rules.space
  match ← Reader.optional namedSet with
  | some isComplement => if rules.admitsNamed isComplement then return parts.add 0 else failure
  | none =>
    (do Reader.char '['; return parts.add ((← nested) + 1))
      <|> (do setOperator; return ⟨some parts.depth, {}⟩)
      <|> (do member rules; return parts.add 0)

/-- What follows the opening bracket of a set, in which others may be nested to the given depth. A
`^` makes it all characters but these, `-` right at the start are characters, and so is a `]`. -/
def set (rules : Rules) : Nat → Reader Nat
  | 0 => failure
  | nesting + 1 => do
    rules.space
    let mark ← Reader.optional (Reader.char '^')
    if mark.isSome && !rules.isWide then failure
    rules.space
    let dashes ← Reader.many (Reader.char '-' <* rules.space)
    let bracket ← if dashes.isEmpty then Reader.optional (Reader.char ']') else pure none
    let count := dashes.length + bracket.toList.length
    if count != 0 && !rules.admitsInSet (.char '-') then failure
    let parts ← Reader.iterate (setStep (set rules nesting) rules) ⟨none, ⟨count, 0⟩⟩
    rules.space
    Reader.char ']'
    return parts.depth

end Bindery.Text.Pattern
