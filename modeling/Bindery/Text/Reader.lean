import Bindery.Text.Blank

/-!
# Readers

A reader takes something from the front of a text, or finds that it is not there. Readers are put
together in the order in which things stand; `<|>` tries a second reader where the first finds
nothing.
-/

namespace Bindery.Text

/-- Takes something from the front of a text. -/
abbrev Reader := StateT (List Char) Option

namespace Reader

/-- One character that satisfies `p`. -/
def satisfying (p : Char → Bool) : Reader Char := fun text =>
  match text with
  | [] => none
  | c :: rest => if p c then some (c, rest) else none

/-- One character, whatever it is. -/
def anyChar : Reader Char :=
  satisfying fun _ => true

/-- The given character. -/
def char (c : Char) : Reader Unit := do
  let _ ← satisfying (· == c)

/-- The given characters. -/
def chars (mark : String) : Reader Unit :=
  mark.toList.forM char

/-- The longest run of characters that satisfy `p`, which may be empty. -/
def run (p : Char → Bool) : Reader (List Char) := fun text =>
  some (text.takeWhile p, text.dropWhile p)

/-- The longest run of characters that satisfy `p`, which may not be empty. -/
def run1 (p : Char → Bool) : Reader (List Char) := do
  return (← satisfying p) :: (← run p)

/-- What a reader takes, or nothing. -/
def optional {α : Type} (reader : Reader α) : Reader (Option α) := fun text =>
  match reader text with
  | some (a, rest) => some (some a, rest)
  | none => some (none, text)

/-- What a reader would take, which stays where it is. -/
def ahead {α : Type} (reader : Reader α) : Reader α := fun text =>
  (reader text).map fun found => (found.1, text)

/-- Nothing, at the end of the text. -/
def atEnd : Reader Unit := fun text =>
  if text.isEmpty then some (⟨⟩, text) else none

/-- How many bytes there are still to take. -/
def bytesLeft : Reader Nat := fun text =>
  some (byteLength text, text)

/-- What a reader takes again and again, until it finds nothing more, but no more often than the
first text has characters. -/
def manyWithin {α : Type} (reader : Reader α) :
    List Char → List Char → Option (List α × List Char)
  | [], text => some ([], text)
  | _ :: bound, text =>
    match reader text with
    | none => some ([], text)
    | some (a, rest) =>
      (manyWithin reader bound rest).map fun found => (a :: found.1, found.2)

/-- What a reader takes again and again, until it finds nothing more. A reader that always takes a
character away can take no more often than the text has characters. -/
def many {α : Type} (reader : Reader α) : Reader (List α) := fun text =>
  manyWithin reader text text

/-- What becomes of a state by steps that each take something, until none is left to take, but by no
more steps than the first text has characters. -/
def iterateWithin {σ : Type} (step : σ → Reader σ) :
    List Char → σ → List Char → Option (σ × List Char)
  | [], state, text => some (state, text)
  | _ :: bound, state, text =>
    match step state text with
    | none => some (state, text)
    | some (next, rest) => iterateWithin step bound next rest

/-- What becomes of a state by steps that each take something, until none is left to take. Steps
that always take a character away are no more than the text has characters. -/
def iterate {σ : Type} (step : σ → Reader σ) (state : σ) : Reader σ := fun text =>
  iterateWithin step text state text

/-- What a reader takes one or more times, with something between. -/
def separated1 {α β : Type} (reader : Reader α) (separator : Reader β) : Reader (List α) := do
  let first ← reader
  let others ← many (separator *> reader)
  return first :: others

/-- What a reader takes any number of times, with something between. -/
def separated {α β : Type} (reader : Reader α) (separator : Reader β) : Reader (List α) :=
  separated1 reader separator <|> pure []

/-- What a reader takes from a text, if that is the whole text. -/
def whole? {α : Type} (reader : Reader α) (text : List Char) : Option α :=
  match reader text with
  | some (a, []) => some a
  | _ => none

end Reader

end Bindery.Text
