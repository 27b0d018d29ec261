import Bindery.Settings.Basic
import Bindery.Settings.Value

/-!
# From values to settings

Each setting wants a value of one kind. Settings that are not given keep their defaults, and names
that are no settings are passed over. The settings of a section are looked at in the alphabetical
order of their names, and the first value of a wrong kind is reported. A sequence in the place of a
section holds its settings by position.
-/

namespace Bindery.Settings

/-- What a setting wants. -/
inductive Wanted where
  /-- A text. -/
  | text
  /-- A sequence of texts. -/
  | sequence
  /-- A truth value. -/
  | boolean
  /-- A whole number that is not negative. -/
  | count
  /-- The settings of the parser. -/
  | parserSection
  /-- The settings of what is bound. -/
  | generatorSection
  /-- All settings. -/
  | sections
  deriving DecidableEq, Repr

/-- What a wanted kind of value is called. -/
def Wanted.description : Wanted → String
  | .text => "a string"
  | .sequence => "a sequence"
  | .boolean => "a boolean"
  | .count => "u64"
  | .parserSection => "struct CastXmlConfig"
  | .generatorSection => "struct GeneratorConfig"
  | .sections => "struct CastbindConfig"

/-- A value that a setting does not want. -/
structure Mismatch where
  /-- The names, or positions, that lead to the value. -/
  path : List String
  /-- The value. -/
  found : Value
  /-- What is wanted in its place. -/
  wanted : Wanted
  deriving Repr

/-- A number of the wanted kind that is out of its range, in contrast to a value of another kind. -/
def Mismatch.isOutOfRange (mismatch : Mismatch) : Bool :=
  match mismatch.wanted, mismatch.found with
  | .count, .signed _ => true
  | _, _ => false

/-- The wording of a mismatch. -/
def Mismatch.message (mismatch : Mismatch) : String :=
  (if mismatch.isOutOfRange then "invalid value " else "invalid type: found ")
    ++ mismatch.found.description ++ ", expected " ++ mismatch.wanted.description

/-- What reads the value that a path leads to. -/
abbrev Extractor (α : Type) := List String → Value → Except Mismatch α

/-- Reads a text. -/
def extractText : Extractor String
  | _, .text s => .ok s
  | path, found => .error ⟨path, found, .text⟩

/-- Reads a sequence of texts. -/
def extractTexts : Extractor (List String)
  | path, .sequence items =>
    items.zipIdx.mapM fun item => extractText (path ++ [toString item.2]) item.1
  | path, found => .error ⟨path, found, .sequence⟩

/-- Reads a truth value. -/
def extractBoolean : Extractor Bool
  | _, .boolean b => .ok b
  | path, found => .error ⟨path, found, .boolean⟩

/-- Reads a whole number that is not negative, of at most 64 bits. -/
def extractCount : Extractor UInt64
  | _, .unsigned n => .ok n
  | path, .signed n =>
    if 0 ≤ n ∧ n < UInt64.size then .ok (.ofNat n.toNat) else .error ⟨path, .signed n, .count⟩
  | path, found => .error ⟨path, found, .count⟩

/-- Reads a value that may be missing. -/
def extractOr {α : Type} (extract : Extractor α) (fallback : α) (path : List String)
    (value : Option Value) : Except Mismatch α :=
  match value with
  | some value => extract path value
  | none => .ok fallback

/-- Reads an entry of a table, which may be missing. -/
def extractEntry {α : Type} (entries : Table) (path : List String) (extract : Extractor α)
    (name : String) (fallback : α) : Except Mismatch α :=
  extractOr extract fallback (path ++ [name]) (entries.lookup name)

/-- Reads an item of a sequence, which may be missing. -/
def extractItem {α : Type} (items : List Value) (path : List String) (extract : Extractor α)
    (position : Nat) (fallback : α) : Except Mismatch α :=
  extractOr extract fallback (path ++ [toString position]) items[position]?

/-- Reads the settings of the parser. -/
def extractParser : Extractor ParserSettings
  | path, .table entries => do
    let known := ParserSettings.default
    let extra ← extractEntry entries path extractTexts "extra_args" known.extraArguments
    let includes ← extractEntry entries path extractTexts "includes" known.includes
    let program ← extractEntry entries path extractText "program" known.program
    let standard ← extractEntry entries path extractText "std" known.standard
    return ⟨program, standard, includes, extra⟩
  | path, .sequence items => do
    let known := ParserSettings.default
    let program ← extractItem items path extractText 0 known.program
    let standard ← extractItem items path extractText 1 known.standard
    let includes ← extractItem items path extractTexts 2 known.includes
    let extra ← extractItem items path extractTexts 3 known.extraArguments
    return ⟨program, standard, includes, extra⟩
  | path, found => .error ⟨path, found, .parserSection⟩

/-- Reads the settings of what is bound. -/
def extractGenerator : Extractor GeneratorSettings
  | path, .table entries => do
    let known := GeneratorSettings.default
    let start ← extractEntry entries path extractCount "counter_start" known.counterStart
    let begins ← extractEntry entries path extractText "function_prefix" known.functionPrefix
    let namespaces ← extractEntry entries path extractTexts "namespaces" known.namespaces
    let restrict ←
      extractEntry entries path extractBoolean "restrict_to_input" known.restrictToInput
    return ⟨namespaces, restrict, start, begins⟩
  | path, .sequence items => do
    let known := GeneratorSettings.default
    let namespaces ← extractItem items path extractTexts 0 known.namespaces
    let restrict ← extractItem items path extractBoolean 1 known.restrictToInput
    let start ← extractItem items path extractCount 2 known.counterStart
    let begins ← extractItem items path extractText 3 known.functionPrefix
    return ⟨namespaces, restrict, start, begins⟩
  | path, found => .error ⟨path, found, .generatorSection⟩

/-- Reads all settings. -/
def extractSettings : Extractor Settings
  | path, .table entries => do
    let parser ← extractEntry entries path extractParser "castxml" ParserSettings.default
    let generator ← extractEntry entries path extractGenerator "generator" GeneratorSettings.default
    return ⟨parser, generator⟩
  | path, .sequence items => do
    let parser ← extractItem items path extractParser 0 ParserSettings.default
    let generator ← extractItem items path extractGenerator 1 GeneratorSettings.default
    return ⟨parser, generator⟩
  | path, found => .error ⟨path, found, .sections⟩

/-- The settings that a value holds. -/
def ofValue (value : Value) : Except Mismatch Settings :=
  extractSettings [] value

end Bindery.Settings
