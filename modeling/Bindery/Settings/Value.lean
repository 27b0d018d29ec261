import Bindery.Text.Quoted

/-!
# Values of settings

What the sources of settings hold, before anything is known of its meaning: texts, numbers, truth
values, sequences, and tables with named entries. A later source is laid over an earlier one: tables
entry by entry, everything else as a whole.
-/

namespace Bindery.Settings

/-- A value from a source of settings. -/
inductive Value where
  /-- A text. -/
  | text (s : String)
  /-- A whole number from a source that knows signs. -/
  | signed (n : Int)
  /-- A whole number from a source that does not. -/
  | unsigned (n : UInt64)
  /-- A number with a fraction, as it is shown. -/
  | float (shown : String)
  /-- A truth value. -/
  | boolean (b : Bool)
  /-- Values in order. -/
  | sequence (items : List Value)
  /-- Values under names. -/
  | table (entries : List (String × Value))
  deriving Repr

/-- Values under names; no name stands twice. -/
abbrev Table := List (String × Value)

/-- Puts a value under a name: in the place of an old one, or last. -/
def Table.put (entries : Table) (name : String) (value : Value) : Table :=
  match entries with
  | [] => [(name, value)]
  | (known, old) :: rest =>
    if known = name then (name, value) :: rest else (known, old) :: Table.put rest name value

mutual

/-- Lays a later value over an earlier one. -/
def Value.layer (earlier : Value) : Value → Value
  | .table entries =>
    match earlier with
    | .table known => .table (Table.layer known entries)
    | _ => .table entries
  | later => later

/-- Lays the entries of a later table over those of an earlier one. -/
def Table.layer (known : Table) : Table → Table
  | [] => known
  | (name, value) :: rest =>
    match known.lookup name with
    | some old => Table.layer (known.put name (old.layer value)) rest
    | none => Table.layer (known.put name value) rest

end

/-- The value under a path of names, or of positions where there is a sequence. -/
def Value.at? (value : Value) : List String → Option Value
  | [] => some value
  | key :: path =>
    match value with
    | .table entries => (entries.lookup key).bind (·.at? path)
    | .sequence items => (key.toNat?.bind (items[·]?)).bind (·.at? path)
    | _ => none

/-- The table with a value under a path of names, and nothing else. -/
def Table.single : List String → Value → Table
  | [], _ => []
  | [name], value => [(name, value)]
  | name :: path, value => [(name, .table (Table.single path value))]

/-- What a value is called where another kind of value is wanted. -/
def Value.description : Value → String
  | .text s => "string " ++ Text.quoted s
  | .signed n => "signed int `" ++ toString n ++ "`"
  | .unsigned n => "unsigned int `" ++ toString n.toNat ++ "`"
  | .float shown => "float `" ++ shown ++ "`"
  | .boolean b => "bool " ++ toString b
  | .sequence _ => "sequence"
  | .table _ => "map"

end Bindery.Settings
