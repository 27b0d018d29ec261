import Bindery.Binding.Draft

/-!
# Settings

What a run can be told: how to call the external parser, and what to bind under which names. The
settings know their defaults, whether they can be worked with, the command line of the parser and
the options for one input file.
-/

namespace Bindery

/-- How to call the external C++ parser. -/
structure ParserSettings where
  /-- The program to run. -/
  program : String
  /-- The language standard. -/
  standard : String
  /-- The directories to search for headers. -/
  includes : List String
  /-- Arguments to place before the input file. -/
  extraArguments : List String
  deriving DecidableEq, Repr

namespace ParserSettings

/-- The parser as it is called where nothing else is asked for. -/
def default : ParserSettings :=
  ⟨"castxml", "gnu++17", [], []⟩

/-- The words that call the parser on a file, program first. -/
def commandLine (settings : ParserSettings) (input : Path) : List String :=
  [settings.program, "-std=" ++ settings.standard, "-o", "/dev/stdout", "--castxml-output=1"]
    ++ settings.includes.flatMap (fun directory => ["-I", directory])
    ++ settings.extraArguments ++ [input.text]

end ParserSettings

/-- What to bind and how to name it. -/
structure GeneratorSettings where
  /-- The namespaces to bind. -/
  namespaces : List String
  /-- Whether to bind only classes that the input file itself declares. -/
  restrictToInput : Bool
  /-- The first number of an identifier. -/
  counterStart : UInt64
  /-- What the names of the registration functions begin with. -/
  functionPrefix : String
  deriving DecidableEq, Repr

namespace GeneratorSettings

/-- What is bound where nothing else is asked for. -/
def default : GeneratorSettings :=
  ⟨[], true, Binding.Counter.defaultStart, "jsonipc_4_"⟩

/-- Whether anything can be bound at all. -/
def isConfigured (settings : GeneratorSettings) : Bool :=
  !settings.namespaces.isEmpty

/-- The options for an input file, of which the canonical path may be given. -/
def optionsFor (settings : GeneratorSettings) (input : Option Path) : Binding.Options where
  namespaces := settings.namespaces
  restrictTo := if settings.restrictToInput then input else none
  functionPrefix := settings.functionPrefix

end GeneratorSettings

/-- All settings of a run. -/
structure Settings where
  /-- How to call the parser. -/
  parser : ParserSettings
  /-- What to bind. -/
  generator : GeneratorSettings
  deriving DecidableEq, Repr

/-- A setting that no run can work with. -/
inductive InvalidSetting where
  /-- The parser's name is blank. -/
  | blankProgram
  /-- What function names begin with does not begin an identifier. -/
  | badFunctionPrefix (text : String)
  /-- An entry of the list of namespaces does not name a namespace at the top. -/
  | badNamespace (name : String)
  deriving DecidableEq, Repr

namespace InvalidSetting

/-- The setting that is at fault. -/
def field : InvalidSetting → String
  | .blankProgram => "castxml.program"
  | .badFunctionPrefix _ => "generator.function_prefix"
  | .badNamespace _ => "generator.namespaces"

/-- What is wrong with it. -/
def reason : InvalidSetting → String
  | .blankProgram => "must not be empty"
  | .badFunctionPrefix text => "'" ++ text ++ "' is not a C identifier"
  | .badNamespace name => "'" ++ name ++ "' is not a top-level namespace name"

/-- The wording. -/
def message (fault : InvalidSetting) : String :=
  "Invalid configuration value for '" ++ fault.field ++ "': " ++ fault.reason

end InvalidSetting

/-- A letter of ASCII or `_`. -/
def isIdentifierStart (c : Char) : Bool :=
  c.isAlpha || c == '_'

/-- A letter or digit of ASCII or `_`. -/
def isIdentifierPart (c : Char) : Bool :=
  c.isAlphanum || c == '_'

/-- An identifier of C. -/
def isIdentifier : List Char → Bool
  | [] => false
  | c :: rest => isIdentifierStart c && rest.all isIdentifierPart

/-- The name of a namespace at the top: not empty, and without `::`. -/
def isNamespaceName (name : String) : Bool :=
  !name.isEmpty && (Text.segments name.toList).length == 1

namespace Settings

/-- The settings where nothing is asked for. -/
def default : Settings :=
  ⟨.default, .default⟩

/-- The first setting that no run can work with. -/
def fault? (settings : Settings) : Option InvalidSetting :=
  if (Text.trim settings.parser.program.toList).isEmpty then some .blankProgram
  else if !isIdentifier settings.generator.functionPrefix.toList then
    some (.badFunctionPrefix settings.generator.functionPrefix)
  else
    (settings.generator.namespaces.find? (!isNamespaceName ·)).map .badNamespace

end Settings

end Bindery
