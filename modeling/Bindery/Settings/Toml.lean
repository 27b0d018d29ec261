import Bindery.Number.Numeral
import Bindery.Settings.Escape
import Bindery.Settings.Value

/-!
# Settings files

A settings file is a TOML document. Reading one goes in two steps: the text is a sequence of
entries and headers, and these build up a table. An entry may be set once, a table may be defined
once, and neither dotted keys nor headers may reach into what was written as a value.
-/

namespace Bindery.Settings.Toml

open Bindery.Text (Reader)
open Bindery.Number (isDigitOf)

/-! ### Characters -/

/-- A blank inside a line. -/
def isBlank (c : Char) : Bool :=
  c == ' ' || c == '\t'

/-- A character of a key without quotes. -/
def isKeyChar (c : Char) : Bool :=
  c.isAlphanum || c == '_' || c == '-'

/-- Blanks inside a line. -/
def blanks : Reader Unit := do
  let _ ← Reader.run isBlank

/-- A line end. -/
def lineEnd : Reader Unit :=
  Reader.char '\n' <|> Reader.chars "\x0d\n"

/-- A comment up to the end of its line. -/
def comment : Reader Unit := do
  Reader.char '#'
  let _ ← Reader.run isInLine

/-- What may stand behind an entry or header: blanks, a comment, and the end of the line. -/
def restOfLine : Reader Unit := do
  blanks
  let _ ← Reader.optional comment
  lineEnd <|> Reader.atEnd

/-- Blanks, comments and line ends between the items of an array. -/
def gap : Reader Unit := do
  let _ ← Reader.many do
    let _ ← Reader.run isBlank
    lineEnd <|> (comment *> lineEnd)
  blanks

/-! ### Texts -/

/-- An escaped line end, which takes with it all blanks and line ends that follow. -/
def escapedLineEnd : Reader (List Char) := do
  blanks
  lineEnd
  let _ ← Reader.many (lineEnd <|> (do let _ ← Reader.run1 isBlank))
  return []

/-- Characters of a text in double quotes that stand for themselves. -/
def plainChars : Reader (List Char) :=
  Reader.run1 fun c => isInLine c && c != '"' && c != '\\'

/-- A text in double quotes. -/
def basicText : Reader (List Char) := do
  Reader.char '"'
  let pieces ← Reader.many (plainChars <|> (Reader.char '\\' *> escape))
  Reader.char '"'
  return pieces.flatten

/-- A text in single quotes. -/
def literalText : Reader (List Char) := do
  Reader.char '\''
  let content ← Reader.run fun c => isInLine c && c != '\''
  Reader.char '\''
  return content

/-- One or two quotes inside a text over several lines, where no third one follows. -/
def innerQuotes (quote : Char) : Reader (List Char) := do
  let quotes ← Reader.run1 (· == quote)
  if quotes.length < 3 then return quotes else failure

/-- The end of a text over several lines: three quotes, and up to two in front that belong to the
text. -/
def closingQuotes (quote : Char) : Reader (List Char) := do
  let quotes ← Reader.run1 (· == quote)
  if 3 ≤ quotes.length ∧ quotes.length ≤ 5 then return quotes.drop 3 else failure

/-- A line end inside a text over several lines. -/
def lineEndChar : Reader (List Char) := do
  lineEnd
  return ['\n']

/-- A text over several lines between three quotes on each side. A line end right behind the first
ones does not count. -/
def linesText (quote : Char) (piece : Reader (List Char)) : Reader (List Char) := do
  Reader.chars (String.ofList [quote, quote, quote])
  let _ ← Reader.optional lineEnd
  let pieces ← Reader.many (lineEndChar <|> innerQuotes quote <|> piece)
  let last ← closingQuotes quote
  return pieces.flatten ++ last

/-- A text over several lines in double quotes. -/
def basicLines : Reader (List Char) :=
  linesText '"' (plainChars <|> (Reader.char '\\' *> (escapedLineEnd <|> escape)))

/-- A text over several lines in single quotes. -/
def literalLines : Reader (List Char) :=
  linesText '\'' (Reader.run1 fun c => isInLine c && c != '\'')

/-- A text of any of the four forms. -/
def anyText : Reader (List Char) :=
  basicLines <|> literalLines <|> basicText <|> literalText

/-! ### Keys -/

/-- The greatest number of parts of a key, and of values inside one another. -/
def nestingLimit : Nat := 79

/-- One part of a key. -/
def keyPart : Reader String := do
  return String.ofList (← Reader.run1 isKeyChar <|> basicText <|> literalText)

/-- A key: its parts, with dots between them. -/
def key : Reader (List String) := do
  let parts ← Reader.separated1 (blanks *> keyPart <* blanks) (Reader.char '.')
  if parts.length ≤ nestingLimit then return parts else failure

/-! ### Numbers -/

/-- A row of digits of a base that may have single underscores inside. -/
def digits (base : Nat) : Reader (List Char) := do
  let first ← Reader.satisfying (isDigitOf base)
  let others ← Reader.many
    (Reader.satisfying (isDigitOf base)
      <|> (Reader.char '_' *> Reader.satisfying (isDigitOf base)))
  return first :: others

/-- The digits of a decimal whole number, which has no zero in front. -/
def decimalDigits : Reader (List Char) := do
  match ← Reader.ahead Reader.anyChar with
  | '0' => return [← Reader.anyChar]
  | _ => digits 10

/-- The least and the greatest whole number. -/
def integerBounds : Int × Int := (-9223372036854775808, 9223372036854775807)

/-- A whole number within the bounds. -/
def bounded (n : Int) : Reader Value :=
  if integerBounds.1 ≤ n ∧ n ≤ integerBounds.2 then pure (.signed n) else failure

/-- A whole number in another base than ten. -/
def basedInteger (mark : String) (base : Nat) : Reader Value := do
  Reader.chars mark
  bounded (Number.ofDigits base (← digits base))

/-- A whole number. -/
def integer : Reader Value :=
  basedInteger "0x" 16 <|> basedInteger "0o" 8 <|> basedInteger "0b" 2 <|> do
    let isNegative ← Number.sign
    let n : Int := Number.ofDigits 10 (← decimalDigits)
    bounded (if isNegative then -n else n)

/-- A number with a fraction or an exponent. One that is beyond all finite numbers is refused,
unless it is negative. -/
def finiteFloat : Reader Value := do
  let isNegative ← Number.sign
  let whole ← decimalDigits
  let part ← Reader.optional (Reader.char '.' *> digits 10)
  let power ← Reader.optional (Number.exponent (digits 10))
  if part.isNone && power.isNone then failure
  let written : Number.Written := ⟨isNegative, whole, part.getD [], power.getD 0⟩
  if written.number?.isNone && !isNegative then failure
  return .float written.shown

/-- Infinity or no number at all. -/
def specialFloat : Reader Value := do
  let isNegative ← Number.sign
  (do Reader.chars "inf"; return .float (if isNegative then "-inf" else "inf"))
    <|> (do Reader.chars "nan"; return .float "NaN")

/-! ### Dates -/

/-- A number of exactly `count` digits between two bounds. -/
def fixed (count low high : Nat) : Reader Nat := do
  let found ← (List.replicate count ()).mapM fun _ => Reader.satisfying (isDigitOf 10)
  let n := Number.ofDigits 10 found
  if low ≤ n ∧ n ≤ high then return n else failure

/-- The number of days of a month. -/
def daysIn (year month : Nat) : Nat :=
  if month = 2 then
    if year % 4 = 0 ∧ (year % 100 ≠ 0 ∨ year % 400 = 0) then 29 else 28
  else if month = 4 ∨ month = 6 ∨ month = 9 ∨ month = 11 then 30
  else 31

/-- A day of the calendar. -/
def date : Reader Unit := do
  let year ← fixed 4 0 9999
  Reader.char '-'
  let month ← fixed 2 1 12
  Reader.char '-'
  let _ ← fixed 2 1 (daysIn year month)

/-- A time of the day. -/
def time : Reader Unit := do
  let _ ← fixed 2 0 23
  Reader.char ':'
  let _ ← fixed 2 0 59
  Reader.char ':'
  let _ ← fixed 2 0 60
  let _ ← Reader.optional (Reader.char '.' *> Reader.run1 (isDigitOf 10))

/-- The distance from universal time. -/
def offset : Reader Unit :=
  (do let _ ← Reader.satisfying fun c => c == 'Z' || c == 'z') <|> do
    let _ ← Reader.satisfying fun c => c == '+' || c == '-'
    let _ ← fixed 2 0 23
    Reader.char ':'
    let _ ← fixed 2 0 59

/-- A date, a time, or both. -/
def dateTime : Reader Unit :=
  (do
    date
    let _ ← Reader.optional do
      let _ ← Reader.satisfying fun c => c == 'T' || c == 't' || c == ' '
      time
      Reader.optional offset) <|> time

/-- A date or time as a value. No setting is one, so only its being a table by itself matters. -/
def dateValue : Reader Value := do
  dateTime
  return .table [("$__toml_private_datetime", .text "")]

/-! ### Tables -/

/-- What stands under a key while a document is read. -/
inductive Item where
  /-- Something written as a value. -/
  | value (v : Value)
  /-- A table: whether no header of its own was met, and whether it comes from a dotted key. -/
  | table (isImplicit isDotted : Bool) (entries : List (String × Item))
  /-- An array of tables. -/
  | tables (all : List (List (String × Item)))

/-- The entries of a table while a document is read. -/
abbrev Entries := List (String × Item)

/-- Puts an item under a key: in the place of an old one, or last. -/
def Entries.put (entries : Entries) (key : String) (item : Item) : Entries :=
  match entries with
  | [] => [(key, item)]
  | (known, old) :: rest =>
    if known = key then (key, item) :: rest else (known, old) :: Entries.put rest key item

/-- Changes the table that a path leads to, making the tables on the way that are not there. A
dotted path does not lead into a table that has a header of its own. The change is told whether the
table comes from a dotted key. -/
def Entries.change (isDottedPath : Bool) (f : Bool → Entries → Option Entries) :
    List String → Bool → Entries → Option Entries
  | [], isDotted, entries => f isDotted entries
  | key :: path, _, entries =>
    match entries.lookup key with
    | none => do
      let made ← Entries.change isDottedPath f path isDottedPath []
      return entries.put key (.table true isDottedPath made)
    | some (.table isImplicit isDotted inner) =>
      if isDottedPath && !isImplicit then none
      else do
        let changed ← Entries.change isDottedPath f path isDotted inner
        return entries.put key (.table isImplicit isDotted changed)
    | some (.tables all) => do
      let last ← all.getLast?
      let changed ← Entries.change isDottedPath f path false last
      return entries.put key (.tables (all.dropLast ++ [changed]))
    | some (.value _) => none

/-- Sets an entry. It may not be there, and a dotted key may only add to a table that comes from
dotted keys. -/
def Entries.set (entries : Entries) (key : List String) (value : Value) : Option Entries := do
  let path := key.dropLast
  let last ← key.getLast?
  Entries.change true
    (fun isDotted found =>
      if isDotted == path.isEmpty then none
      else if (found.lookup last).isSome then none
      else some (found.put last (.value value)))
    path false entries

mutual

/-- The value of an item. -/
def Item.toValue : Item → Value
  | .value v => v
  | .table _ _ entries => .table (Entries.toTable entries)
  | .tables all => .sequence (Entries.toTables all)

/-- The values of the entries of a table. -/
def Entries.toTable : List (String × Item) → List (String × Value)
  | [] => []
  | (key, item) :: rest => (key, item.toValue) :: Entries.toTable rest

/-- The values of an array of tables. -/
def Entries.toTables : List (List (String × Item)) → List Value
  | [] => []
  | entries :: rest => .table (Entries.toTable entries) :: Entries.toTables rest

end

/-! ### Values -/

/-- An entry: a key, `=`, and a value. -/
def entry (value : Reader Value) : Reader (List String × Value) := do
  let path ← key
  Reader.char '='
  blanks
  return (path, ← value)

/-- An array of values. Its last item may have a comma behind it. -/
def array (value : Reader Value) : Reader Value := do
  Reader.char '['
  let items ← Reader.separated (gap *> value <* gap) (Reader.char ',')
  if !items.isEmpty then
    let _ ← Reader.optional (Reader.char ',')
  gap
  Reader.char ']'
  return .sequence items

/-- A table within a line. -/
def inlineTable (value : Reader Value) : Reader Value := do
  Reader.char '\x7b'
  let entries ← Reader.separated (blanks *> entry value <* blanks) (Reader.char ',')
  blanks
  Reader.char '\x7d'
  let built ← (entries.foldlM (fun (table : Entries) e => table.set e.1 e.2) []).elim failure pure
  return .table (Entries.toTable built)

/-- A value, in which others may be nested to the given depth. -/
def value (depth : Nat) : Reader Value := do
  match ← Reader.ahead Reader.anyChar with
  | '"' => return .text (String.ofList (← anyText))
  | '\'' => return .text (String.ofList (← anyText))
  | '[' =>
    match depth with
    | 0 => failure
    | inner + 1 => array (value inner)
  | '\x7b' =>
    match depth with
    | 0 => failure
    | inner + 1 => inlineTable (value inner)
  | 't' => Reader.chars "true" *> pure (.boolean true)
  | 'f' => Reader.chars "false" *> pure (.boolean false)
  | _ => dateValue <|> finiteFloat <|> integer <|> specialFloat

/-! ### Documents -/

/-- A line that is not blank. -/
inductive Statement where
  /-- An entry of the table that is open. -/
  | entry (key : List String) (value : Value)
  /-- The header of a table. -/
  | header (path : List String)
  /-- The header of the next table of an array. -/
  | arrayHeader (path : List String)

/-- A statement with the rest of its line. -/
def statement : Reader Statement := do
  let found ←
    (do Reader.chars "[["; let path ← key; Reader.chars "]]"; return .arrayHeader path)
    <|> (do Reader.char '['; let path ← key; Reader.char ']'; return .header path)
    <|> (do let (path, v) ← entry (value nestingLimit); return .entry path v)
  restOfLine
  return found

/-- A line without a statement, which is not the end of the text. -/
def emptyLine : Reader Unit := do
  blanks
  lineEnd <|> do
    comment
    lineEnd <|> Reader.atEnd

/-- A line: a statement, or none. -/
def line : Reader (Option Statement) :=
  (emptyLine *> pure none) <|> (blanks *> (some <$> statement))

/-- All statements of a document. A byte order mark in front of it does not count. -/
def statements : Reader (List Statement) := do
  let _ ← Reader.optional (Reader.char '\ufeff')
  let lines ← Reader.many line
  blanks
  return lines.reduceOption

/-- A document while it is built up: all tables but the open one, the open one, and where it
belongs. -/
structure Building where
  /-- The tables that are closed. -/
  root : Entries
  /-- The entries of the table that is open. -/
  opened : Entries
  /-- The path of the open table; empty before the first header. -/
  path : List String
  /-- Whether the open table is one of an array. -/
  isArray : Bool

namespace Building

/-- Adds a table to the array of tables under a key. -/
def addToArray (key : String) (added : Option Entries) (entries : Entries) : Option Entries :=
  match entries.lookup key with
  | none => some (entries.put key (.tables added.toList))
  | some (.tables all) => some (entries.put key (.tables (all ++ added.toList)))
  | some _ => none

/-- Puts a table under a key, where there may be one that no header was met for. -/
def place (key : String) (added : Entries) (entries : Entries) : Option Entries :=
  match entries.lookup key with
  | none => some (entries.put key (.table false false added))
  | some (.table true _ _) => some (entries.put key (.table false false added))
  | some _ => none

/-- Puts the open table where it belongs. -/
def close (building : Building) : Option Entries :=
  match building.path.getLast? with
  | none => some building.opened
  | some key =>
    Entries.change false
      (fun _ entries =>
        if building.isArray then addToArray key (some building.opened) entries
        else place key building.opened entries)
      building.path.dropLast false building.root

/-- Takes the table under a key out of its surroundings, if no header was met for it. -/
def takeImplicit (key : String) (entries : Entries) : Option (Entries × Entries) :=
  match entries.lookup key with
  | none => some ([], entries)
  | some (.table true false inner) => some (inner, entries.filter (·.1 != key))
  | some _ => none

/-- The entries of the table that a path leads to. -/
def find? : List String → Entries → Option Entries
  | [], entries => some entries
  | key :: path, entries =>
    match entries.lookup key with
    | some (.table _ _ inner) => find? path inner
    | some (.tables all) => all.getLast?.bind (find? path)
    | _ => none

/-- Opens the table of a header. -/
def openTable (path : List String) (root : Entries) : Option Building := do
  let key ← path.getLast?
  let outer := path.dropLast
  let changed ← Entries.change false (fun _ entries => (takeImplicit key entries).map (·.2)) outer
    false root
  let found := ((find? outer root).bind fun entries => (takeImplicit key entries).map (·.1)).getD []
  return ⟨changed, found, path, false⟩

/-- Opens the next table of an array. -/
def openArray (path : List String) (root : Entries) : Option Building := do
  let key ← path.getLast?
  let changed ← Entries.change false (fun _ entries => addToArray key none entries) path.dropLast
    false root
  return ⟨changed, [], path, true⟩

/-- The document after one more statement. -/
def step (building : Building) : Statement → Option Building
  | .entry key value => do
    return { building with opened := ← building.opened.set key value }
  | .header path => do openTable path (← building.close)
  | .arrayHeader path => do openArray path (← building.close)

end Building

/-- The table that the statements of a document build up, if they fit together. -/
def build? (statements : List Statement) : Option Table := do
  let built ← statements.foldlM Building.step ⟨[], [], [], false⟩
  return Entries.toTable (← built.close)

/-! ### Marked tables -/

/-- The name of the entry that stands for the table it is in. -/
def contentName : String := "___figment_value_value"

/-- A name that no entry of a table within a document may have. -/
def markName : String := "___figment_value_id"

mutual

/-- The value that a value within a document stands for. -/
def content? : Value → Option Value
  | .table entries => do
    if (entries.lookup markName).isSome then none
    else
      let inner ← contentsOfTable? entries
      return (inner.lookup contentName).getD (.table inner)
  | .sequence items => return .sequence (← contentsOfItems? items)
  | value => some value

/-- The values that the entries of a table stand for. -/
def contentsOfTable? : List (String × Value) → Option (List (String × Value))
  | [] => some []
  | (name, value) :: rest => do
    return (name, ← content? value) :: (← contentsOfTable? rest)

/-- The values that the items of a sequence stand for. -/
def contentsOfItems? : List Value → Option (List Value)
  | [] => some []
  | value :: rest => do
    return (← content? value) :: (← contentsOfItems? rest)

end

/-- Reads a document. -/
def read? (text : String) : Option Table := do
  contentsOfTable? (← build? (← Reader.whole? statements text.toList))

end Bindery.Settings.Toml
