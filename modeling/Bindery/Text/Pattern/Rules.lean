import Bindery.Text.Reader

/-!
# Rules of patterns

A pattern can say on its way how it is to be read. Seven rules can be switched on and off, each by
its letter. Three of them decide which texts are patterns.
-/

namespace Bindery.Text.Pattern

/-- How a pattern is read. -/
structure Rules where
  /-- Upper and lower case are not told apart. -/
  foldsCase : Bool := false
  /-- What is matched are characters of any script, and not bytes. -/
  isWide : Bool := true
  /-- Blanks and comments mean nothing. -/
  isSpaced : Bool := false
  deriving DecidableEq, Repr

/-- What is left of a text without the blanks and comments in front of it. A comment goes from a
`#` to the end of the line. -/
def dropSpace (inComment : Bool) : List Char → List Char
  | [] => []
  | c :: rest =>
    if inComment then dropSpace (c != '\n') rest
    else if c == '#' then dropSpace true rest
    else if isBlank c then dropSpace false rest
    else c :: rest

namespace Rules

/-- What may stand between the parts of a pattern and means nothing. -/
def space (rules : Rules) : Reader Unit := fun text =>
  some (⟨⟩, if rules.isSpaced then dropSpace false text else text)

/-- The letters of the rules. -/
def letters : List Char := ['i', 'm', 's', 'U', 'u', 'R', 'x']

/-- The rules when some are switched on and others off. -/
def switched (rules : Rules) (on off : List Char) : Rules :=
  let holds (letter : Char) (before : Bool) : Bool :=
    on.contains letter || (before && !off.contains letter)
  ⟨holds 'i' rules.foldsCase, holds 'u' rules.isWide, holds 'x' rules.isSpaced⟩

/-- The rules when those in front are switched on and those behind a `-` off, if there are any. No
rule is named twice, and a `-` has one behind it. -/
def change (rules : Rules) : Reader (Option Rules) := do
  let on ← Reader.run (· ∈ letters)
  let off ← Reader.optional (Reader.char '-' *> Reader.run1 (· ∈ letters))
  let named := on ++ off.getD []
  if named.isEmpty then return none
  else if named.Nodup then return some (rules.switched on (off.getD []))
  else failure

end Rules

end Bindery.Text.Pattern
