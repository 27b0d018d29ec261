import Bindery.Host.Basic
import Bindery.Number.Numeral
import Bindery.Settings.Escape
import Bindery.Settings.Value

/-!
# Settings in environment variables

A variable whose name begins with `CASTBIND_` in letters of any case sets a value. Two underscores
in the rest of the name separate the parts of a path. The value is written in a small notation for
truth values, numbers, texts, sequences and tables; what does not follow it is a text as a whole.
-/

namespace Bindery.Settings.Variable

open Bindery.Text (Reader)

/-! ### Values -/

/-- The blanks between the parts of a value. -/
def isBlank (c : Char) : Bool :=
  c == ' ' || c == '\t' || c == '\n' || c == '\r' || c == '\x0c'

/-- Blanks. -/
def blanks : Reader Unit := do
  let _ ← Reader.run isBlank

/-- A character that ends a value without quotes. -/
def isSeparator (c : Char) : Bool :=
  c == ',' || c == '\x7b' || c == '\x7d' || c == '[' || c == ']'

/-- A character that stands for itself in a text between double quotes. -/
def isPlain (c : Char) : Bool :=
  isInLine c && c != '"' && c != '\\'

/-- A text between double quotes. Of what stands in front of the first escape, only as many bytes
are kept as it has characters; they may not end inside a character. -/
def quotedText : Reader String := do
  Reader.char '"'
  let plain ← Reader.run isPlain
  let pieces ← Reader.many ((Reader.char '\\' *> escape) <|> Reader.run1 isPlain)
  Reader.char '"'
  if pieces.isEmpty then return String.ofList plain
  else
    match Text.takeBytes? plain.length plain with
    | some kept => return String.ofList (kept ++ pieces.flatten)
    | none => failure

/-- The key of an entry of a table. -/
def key : Reader String := do
  match ← Reader.ahead Reader.anyChar with
  | '"' => quotedText
  | _ => return String.ofList (← Reader.run1 fun c => c.isAlphanum || c == '_' || c == '-')

/-- The bounds of whole numbers: those with a minus reach down to the first, all others up to the
second. -/
def integerBounds : Nat × Nat := (9223372036854775808, 18446744073709551615)

/-- A whole number within the bounds. -/
def integer : Reader Value := do
  let isNegative ← Number.sign
  let n := Number.ofDigits 10 (← Reader.run1 Char.isDigit)
  if isNegative then if n ≤ integerBounds.1 then return .signed (-n) else failure
  else if n ≤ integerBounds.2 then return .unsigned (.ofNat n)
  else failure

/-- A number with a point in it. -/
def decimal? (text : List Char) : Option Value :=
  if '.' ∈ text then (Reader.whole? Number.written text).map fun written => .float written.shown
  else none

/-- What a text without quotes stands for: a number if it is one, otherwise itself. -/
def bareValue (text : List Char) : Value :=
  let trimmed := Text.trim text
  ((decimal? trimmed).or (Reader.whole? integer trimmed)).getD (.text (String.ofList trimmed))

/-- Items between two marks, with commas between them. There may be a comma behind the last one. -/
def items {α : Type} (item : Reader α) (first last : Char) : Reader (List α) := do
  Reader.char first
  (Reader.char last *> pure []) <|> do
    let head ← item
    let others ← Reader.many (Reader.char ',' *> notAhead last *> item)
    let _ ← Reader.optional (Reader.char ',')
    Reader.char last
    return head :: others
where
  /-- Nothing, if the given character does not follow. -/
  notAhead (c : Char) : Reader Unit := do
    if (← Reader.optional (Reader.ahead (Reader.char c))).isSome then failure

/-- An entry of a table. -/
def entry (value : Reader Value) : Reader (String × Value) := do
  blanks
  let name ← key
  blanks
  Reader.char '='
  return (name, ← value)

/-- A value with blanks around it, in which others may be nested to the given depth. The first
character that could begin one of the forms decides which form it is. -/
def value : Nat → Reader Value
  | 0 => failure
  | depth + 1 => do
    blanks
    let found ← (Reader.chars "true" *> pure (.boolean true))
      <|> (Reader.chars "false" *> pure (.boolean false))
      <|> do
        match ← Reader.optional (Reader.ahead Reader.anyChar) with
        | some '\x7b' =>
          let entries ← items (entry (value depth)) '\x7b' '\x7d'
          return .table (entries.foldl (fun (table : Table) e => table.put e.1 e.2) [])
        | some '[' => return .sequence (← items (value depth) '[' ']')
        | some '"' => return .text (← quotedText)
        | some '\'' =>
          Reader.char '\''
          let c ← Reader.anyChar
          Reader.char '\''
          return .text c.toString
        | _ => return bareValue (← Reader.run (!isSeparator ·))
    blanks
    return found

/-- The value that the text of a variable stands for. No value is nested deeper than the text is
long. -/
def readValue (text : String) : Value :=
  (Reader.whole? (value (text.length + 1)) text.toList).getD (.text text)

/-! ### Names -/

/-- What the names of variables that hold settings begin with, in small letters. -/
def mark : List Char := "castbind_".toList

/-- The parts of a name between double underscores or dots. -/
def nameParts : List Char → List (List Char)
  | [] => [[]]
  | '_' :: '_' :: rest => [] :: nameParts rest
  | c :: rest => if c = '.' then [] :: nameParts rest else (nameParts rest).modifyHead (c :: ·)

/-- The path that a variable's name stands for, if the variable holds a setting. The blanks around
the name and those behind the mark do not count. -/
def path? (name : String) : Option (List String) :=
  let lowered := (Text.trim name.toList).map Char.toLower
  if mark.isPrefixOf lowered then
    let parts := nameParts (Text.trim (lowered.drop mark.length))
    if parts.any List.isEmpty then none else some (parts.map String.ofList)
  else none

/-- The table that a variable sets, if it holds a setting. -/
def table (variable_ : String × String) : Table :=
  match path? variable_.1 with
  | some path => Table.single path (readValue variable_.2)
  | none => []

/-- The table that an environment sets: its variables in order, each laid over those before. -/
def tableOf (environment : Environment) : Table :=
  environment.foldl (fun known variable_ => known.layer (table variable_)) []

end Bindery.Settings.Variable
