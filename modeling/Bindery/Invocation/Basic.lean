import Bindery.Settings.Basic

/-!
# Invocations

What a run is asked for on its command line, and how that changes the settings it has loaded: the
command line adds directories and namespaces to those of the settings, and can lift the restriction
to the input files.
-/

namespace Bindery

/-- What a command line asks for. -/
structure Invocation where
  /-- The input files. -/
  files : List String := []
  /-- More directories to search for headers. -/
  includes : List String := []
  /-- More namespaces to bind. -/
  namespaces : List String := []
  /-- The file for the generated code. -/
  output : Option String := none
  /-- The file to read settings from instead of the project's. -/
  config : Option String := none
  /-- Whether the input files are translation units already. -/
  isXml : Bool := false
  /-- Whether to bind classes of all files. -/
  allFiles : Bool := false
  /-- Whether to write reports. -/
  report : Bool := false
  /-- Whether to log errors only. -/
  quiet : Bool := false
  /-- Whether to log more than warnings. -/
  verbose : Bool := false
  deriving DecidableEq, Repr

/-- Adds a name at the end of a list, unless it is in the list. -/
def addNew (known : List String) (name : String) : List String :=
  if name ∈ known then known else known ++ [name]

/-- The settings of a run, changed as its command line asks for. -/
def Invocation.apply (invocation : Invocation) (settings : Settings) : Settings where
  parser := { settings.parser with
    includes := settings.parser.includes ++ invocation.includes }
  generator := { settings.generator with
    namespaces := invocation.namespaces.foldl addNew settings.generator.namespaces
    restrictToInput := settings.generator.restrictToInput && !invocation.allFiles }

end Bindery
