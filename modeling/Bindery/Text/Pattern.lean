import Bindery.Text.Letter
import Bindery.Text.Pattern.Set

/-!
# Patterns

Which texts are regular expressions: every group is closed, what is repeated is there, no two groups
have the same name, and nothing is nested too deeply. Numbers of repetitions are not part of the
notation.
-/

namespace Bindery.Text.Pattern

/-! ### Levels -/

/-- A group, or the whole pattern, as far as it has been read. -/
structure Level where
  /-- How the level is read from here on. -/
  rules : Rules := {}
  /-- The depth of the deepest alternative in front of the last `|`. -/
  alternative? : Option Nat := none
  /-- The parts behind it that cannot be repeated. -/
  row : Row := {}
  /-- The depth of the last part, if that can be repeated. -/
  last? : Option Nat := none
  deriving DecidableEq, Repr

namespace Level

/-- The parts of the last alternative. -/
def parts (level : Level) : Row :=
  match level.last? with
  | none => level.row
  | some depth => level.row.add depth

/-- How deeply the level is nested. Alternatives are a level of their own. -/
def depth (level : Level) : Nat :=
  match level.alternative? with
  | none => level.parts.depth
  | some alternative => max alternative level.parts.depth + 1

/-- One more part, which can be repeated. -/
def add (level : Level) (depth : Nat) : Level :=
  { level with row := level.parts, last? := some depth }

/-- A change of the rules, which is a part that cannot be repeated. -/
def change (level : Level) (rules : Rules) : Level :=
  { level with rules := rules, row := level.parts.add 0, last? := none }

/-- The beginning of another alternative. -/
def alternate (level : Level) : Level :=
  { rules := level.rules
    alternative? := some (max (level.alternative?.getD 0) level.parts.depth) }

/-- Repeats the last part. -/
def repeated? (level : Level) : Option Level :=
  level.last?.map fun depth => { level with last? := some (depth + 1) }

end Level

/-! ### Progress -/

/-- A pattern as far as it has been read. -/
structure Progress where
  /-- The innermost group that is open. -/
  level : Level := {}
  /-- What is around it, from the inside out. -/
  outer : List Level := []
  /-- The names of groups. -/
  names : List (List Char) := []
  deriving DecidableEq, Repr

namespace Progress

/-- One more part of the innermost group. -/
def add (progress : Progress) (depth : Nat) : Progress :=
  { progress with level := progress.level.add depth }

/-- The beginning of a group. -/
def descend (progress : Progress) (rules : Rules) : Progress :=
  { progress with level := { rules := rules }, outer := progress.level :: progress.outer }

/-- The end of a group. The rules are again those from before it. -/
def ascend? (progress : Progress) : Option Progress :=
  match progress.outer with
  | [] => none
  | level :: outer =>
    some { progress with level := level.add (progress.level.depth + 1), outer := outer }

end Progress

/-! ### Reading -/

/-- The name of a group. -/
def groupName : Reader (List Char) := do
  let first ← Reader.satisfying fun c => c == '_' || isLetter c
  let others ← Reader.run fun c => isLetterOrDigit c || c ∈ ['_', '.', '[', ']']
  Reader.char '>'
  return first :: others

/-- What follows an opening parenthesis: a group, with a name or with rules of its own, or new rules
for the rest of the group around. -/
def opening (progress : Progress) : Reader Progress := do
  let rules := progress.level.rules
  rules.space
  if (← Reader.optional (Reader.char '?')).isNone then return progress.descend rules
  else if (← Reader.optional (Reader.chars "P<" <|> Reader.char '<')).isSome then
    let name ← groupName
    return { progress.descend rules with names := name :: progress.names }
  else
    let changed? ← rules.change
    match ← Reader.anyChar, changed? with
    | ':', _ => return progress.descend (changed?.getD rules)
    | ')', some changed => return { progress with level := progress.level.change changed }
    | _, _ => failure

/-- An atom outside of sets. -/
def placed (progress : Progress) (atom : Atom) : Reader Progress :=
  if progress.level.rules.admits atom then return progress.add 0 else failure

/-- The next part of a pattern. A `?` right behind a mark of repetition belongs to it. -/
def step (progress : Progress) : Reader Progress := do
  let rules := progress.level.rules
  rules.space
  match ← Reader.anyChar with
  | '(' => opening progress
  | ')' => progress.ascend?.elim failure pure
  | '|' => return { progress with level := progress.level.alternate }
  | '*' | '+' | '?' =>
    let _ ← Reader.optional (Reader.char '?')
    progress.level.repeated?.elim failure fun level => return { progress with level := level }
  | '\x7b' => failure
  | '[' => return progress.add ((← set rules nestingLimit) + 1)
  | '\\' => placed progress (← escaped rules)
  | '.' => placed progress .any
  | '^' | '$' => placed progress .edge
  | c => placed progress (.char c)

/-- A pattern with all its groups, whether or not they are closed. -/
def reader : Reader Progress := do
  let progress ← Reader.iterate step {}
  progress.level.rules.space
  return progress

/-- Whether a text is a pattern. -/
def isPattern (text : List Char) : Bool :=
  match Reader.whole? reader text with
  | some progress =>
    progress.outer.isEmpty && progress.level.depth ≤ nestingLimit && progress.names.Nodup
  | none => false

end Bindery.Text.Pattern
