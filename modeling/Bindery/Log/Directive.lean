import Bindery.Log.Notice
import Bindery.Number.Numeral
import Bindery.Text.Pattern
import Bindery.Text.Utf8

/-!
# Directives

A directive says up to which level records are let through, and for which records it says so: those
whose target begins with a text, and that carry a value of a given name. It is written
`target[span{value}]=level`, where every part may be missing.
-/

namespace Bindery.Log

open Bindery.Text (Reader)

/-- The rank of a level: the more important, the lower. -/
def Level.rank : Level → Nat
  | .error => 1
  | .warn => 2
  | .info => 3
  | .debug => 4
  | .trace => 5

/-- What a directive holds for. -/
inductive Scope where
  /-- Records whose target begins with a text, and that carry a value of a name. Either may be
  missing. -/
  | records (start? name? : Option (List Char))
  /-- What happens inside of spans of time, of which this program has none. -/
  | spans
  deriving DecidableEq, Repr

/-- What is let through, and where. -/
structure Directive where
  /-- What the directive holds for. -/
  scope : Scope
  /-- The greatest rank that is let through; zero lets nothing through. -/
  rank : Nat
  deriving DecidableEq, Repr

/-! ### Reading -/

/-- The rank that a word stands for: the name of a level in letters of any case, the word `off`, or
a number. -/
def rankOf? (word : List Char) : Option Nat :=
  let digits := if word.head? = some '+' then word.tail else word
  if !digits.isEmpty && digits.all Char.isDigit then
    let n := Number.ofDigits 10 digits
    if n ≤ 5 then some n else none
  else
    match String.ofList (word.map Char.toLower) with
    | "off" => some 0
    | "error" => some 1
    | "warn" => some 2
    | "info" => some 3
    | "debug" => some 4
    | "trace" => some 5
    | _ => none

/-- The rank behind a `=`; without a word it is the greatest. -/
def rankBehind? (word : List Char) : Option Nat :=
  if word.isEmpty then some Level.trace.rank else rankOf? word

/-- Where the parts of a directive stand, given by the number of bytes from there to its end. -/
structure Marks where
  /-- The end of the word in front. -/
  word : Nat
  /-- The two ends of the name of a span, if there are brackets, and those of the value in it. -/
  span : Option ((Nat × Nat) × Option (Nat × Nat))
  /-- The beginning of the level. -/
  level : Option Nat
  deriving DecidableEq, Repr

namespace Marks

/-- A run of characters that satisfy `p`, given by its two ends. -/
def ends (p : Char → Bool) : Reader (Nat × Nat) := do
  let start ← Reader.bytesLeft
  let _ ← Reader.run p
  return (start, ← Reader.bytesLeft)

/-- A value within the brackets of a span. -/
def braces : Reader (Nat × Nat) :=
  Reader.char '\x7b' *> ends (· != '\x7d') <* Reader.char '\x7d'

/-- The brackets of a span. -/
def brackets : Reader ((Nat × Nat) × Option (Nat × Nat)) := do
  Reader.char '['
  let name ← ends fun c => c != ']' && c != '\x7b'
  let value ← Reader.optional braces
  Reader.char ']'
  return (name, value)

/-- The marks of a directive. The word in front begins with a letter, a digit, `-`, `:` or `_`. -/
def reader : Reader Marks := do
  let _ ← Reader.ahead <| Reader.satisfying fun c =>
    Text.isLetterOrDigit c || c == '-' || c == ':' || c == '_' || c == '['
  let (_, word) ← ends fun c => c != '=' && c != '['
  let span ← Reader.optional brackets
  let level ← Reader.optional (Reader.char '=' *> ends fun _ => true)
  return ⟨word, span, level.map Prod.fst⟩

end Marks

/-- Whether a text is what a value can be compared with: a number or a pattern. -/
def isComparable (text : List Char) : Bool :=
  (Reader.whole? Number.written text).isSome
    || String.ofList (text.map Char.toLower) ∈ ["+inf", "+infinity", "+nan"]
    || Text.Pattern.isPattern text

/-- The name of a value, if records can be told apart by the name alone. A value that it has to be
compared with is one that can be compared with. -/
def readName? (text : List Char) : Option (Option (List Char)) :=
  match Text.fields (· == '=') text with
  | [[]] => none
  | [name] => some (some name)
  | _ :: value :: _ => if isComparable value then some none else none
  | [] => none

/-- A directive that is only a word: a level for all records, or a target. -/
def Directive.ofWord (word : List Char) : Directive :=
  match rankOf? word with
  | some rank => ⟨.records none none, rank⟩
  | none => ⟨.records (some word) none, Level.trace.rank⟩

/-- Reads a directive. The marks are looked for without the blanks at its two ends, but the parts
are those that stand at the same places of the whole text. So a directive with a blank in front
hardly ever means what one without it does. -/
def Directive.read? (text : List Char) : Option Directive := do
  let trimmed := Text.trim text
  let marks ← Reader.whole? Marks.reader trimmed
  if marks.span.isNone && marks.level.isNone then return .ofWord text
  let place (left : Nat) : Nat := Text.byteLength trimmed - left
  let part? (start stop : Nat) : Option (List Char) := do
    Text.takeBytes? (stop - start) (← Text.dropBytes? start text)
  let word ← part? 0 (place marks.word)
  let start? := if word.isEmpty then none else some word
  let rank ← match marks.level with
    | some start => rankBehind? (← Text.dropBytes? (place start) text)
    | none => pure Level.trace.rank
  match marks.span with
  | none => return ⟨.records start? none, rank⟩
  | some (_, none) => return ⟨.spans, rank⟩
  | some (name, some value) =>
    match ← readName? (← part? (place value.1) (place value.2)), name.1 == name.2 with
    | some valueName, true => return ⟨.records start? (some valueName), rank⟩
    | _, _ => return ⟨.spans, rank⟩

/-! ### Meaning -/

/-- Whether a record carries a value of a name. Every record carries its wording. -/
def Record.carries (record : Record) (name : List Char) : Bool :=
  name == "message".toList || record.values.any (·.1.toList == name)

/-- Whether a directive holds for a record. -/
def Directive.holdsFor (directive : Directive) (record : Record) : Bool :=
  match directive.scope with
  | .records start? name? =>
    (start?.all (·.isPrefixOf record.target.toList)) && name?.all record.carries
  | .spans => false

/-- How closely a directive describes the records it holds for: by the number of characters of
their target, counted from one, and by the name of a value. -/
def Directive.closeness (directive : Directive) : Nat × List Char :=
  match directive.scope with
  | .records start? name? => ((start?.map (·.length + 1)).getD 0, name?.getD [])
  | .spans => (0, [])

/-- Whether one directive describes records less closely than another: by fewer characters of the
target, or by as many and a lesser name. -/
def Directive.isVaguerThan (directive other : Directive) : Bool :=
  let ours := directive.closeness
  let theirs := other.closeness
  ours.1 < theirs.1 || (ours.1 == theirs.1 && ours.2 < theirs.2)

end Bindery.Log
