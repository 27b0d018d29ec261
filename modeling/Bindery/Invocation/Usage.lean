import Bindery.Invocation.Basic
import Bindery.Text.Blank

/-!
# Reading a command line

The words of a command line are read from the left. What an option or a row of files holds is only
taken over when the next option or the end is reached, so that an unknown option is reported before
a fault in the word in front of it.
-/

namespace Bindery

/-- An option without a value. -/
inductive Flag where
  /-- The input files are translation units. -/
  | xml
  /-- Classes of all files are bound. -/
  | allFiles
  /-- Reports are written. -/
  | report
  /-- Only errors are logged. -/
  | quiet
  /-- More than warnings is logged. -/
  | verbose
  deriving DecidableEq, Repr

/-- An option with a value. -/
inductive Parameter where
  /-- A directory to search for headers. -/
  | directory
  /-- A namespace to bind. -/
  | namespaceName
  /-- The file for the generated code. -/
  | output
  /-- The file to read settings from. -/
  | config
  deriving DecidableEq, Repr

/-- An option. -/
inductive Switch where
  /-- One without a value. -/
  | flag (flag : Flag)
  /-- One with a value. -/
  | parameter (parameter : Parameter)
  /-- The request for help. -/
  | help
  /-- The request for the version. -/
  | version
  deriving DecidableEq, Repr

/-- The option that a single letter stands for. -/
def Switch.ofLetter? : Char → Option Switch
  | 'I' => some (.parameter .directory)
  | 'N' => some (.parameter .namespaceName)
  | 'o' => some (.parameter .output)
  | 'c' => some (.parameter .config)
  | 'q' => some (.flag .quiet)
  | 'v' => some (.flag .verbose)
  | 'h' => some .help
  | 'V' => some .version
  | _ => none

/-- The option that a word stands for. -/
def Switch.ofWord? : String → Option Switch
  | "namespace" => some (.parameter .namespaceName)
  | "output" => some (.parameter .output)
  | "config" => some (.parameter .config)
  | "xml" => some (.flag .xml)
  | "all-files" => some (.flag .allFiles)
  | "report" => some (.flag .report)
  | "quiet" => some (.flag .quiet)
  | "verbose" => some (.flag .verbose)
  | "help" => some .help
  | "version" => some .version
  | _ => none

/-- Why a command line asks for no run. -/
inductive UsageError where
  /-- There are no input files. -/
  | missingFiles
  /-- Two options exclude each other, or one is given twice. -/
  | conflict
  /-- An option is unknown. -/
  | unknownOption (word : String)
  /-- A value is missing or empty. -/
  | badValue
  /-- A flag is given a value. -/
  | needlessValue
  /-- Help is asked for. -/
  | help
  /-- The version is asked for. -/
  | version
  deriving DecidableEq, Repr

namespace Invocation

/-- Raises a flag, which may not be raised already. -/
def raise (invocation : Invocation) : Flag → Except UsageError Invocation
  | .xml => if invocation.isXml then .error .conflict else .ok { invocation with isXml := true }
  | .allFiles =>
    if invocation.allFiles then .error .conflict else .ok { invocation with allFiles := true }
  | .report =>
    if invocation.report then .error .conflict else .ok { invocation with report := true }
  | .quiet => if invocation.quiet then .error .conflict else .ok { invocation with quiet := true }
  | .verbose =>
    if invocation.verbose then .error .conflict else .ok { invocation with verbose := true }

/-- A path from the command line, which may not be empty. -/
def checkPath (text : String) : Except UsageError String :=
  if text.isEmpty then .error .badValue else .ok text

/-- Takes over the value of an option. Directories and namespaces collect; the others may be given
once. -/
def give (invocation : Invocation) (parameter : Parameter) (value : String) :
    Except UsageError Invocation :=
  match parameter with
  | .directory => do
    return { invocation with includes := invocation.includes ++ [← checkPath value] }
  | .namespaceName => .ok { invocation with namespaces := invocation.namespaces ++ [value] }
  | .output =>
    if invocation.output.isSome then .error .conflict
    else do return { invocation with output := some (← checkPath value) }
  | .config =>
    if invocation.config.isSome then .error .conflict
    else do return { invocation with config := some (← checkPath value) }

/-- Takes over a row of files. -/
def addFiles (invocation : Invocation) (files : List String) : Except UsageError Invocation := do
  return { invocation with files := invocation.files ++ (← files.mapM checkPath) }

/-- Something that is read but not yet taken over. -/
inductive Pending where
  /-- Nothing. -/
  | nothing
  /-- An option that waits for its value. -/
  | awaiting (parameter : Parameter)
  /-- An option with its value. -/
  | given (parameter : Parameter) (value : String)
  /-- A row of files. -/
  | files (words : List String)
  deriving DecidableEq, Repr

/-- How far a command line is read. -/
structure Reading where
  /-- What is taken over. -/
  taken : Invocation := {}
  /-- What is not yet taken over. -/
  pending : Pending := .nothing
  deriving DecidableEq, Repr

namespace Reading

/-- Takes over what is pending. -/
def settle (reading : Reading) : Except UsageError Invocation :=
  match reading.pending with
  | .nothing => .ok reading.taken
  | .awaiting _ => .error .badValue
  | .given parameter value => reading.taken.give parameter value
  | .files words => reading.taken.addFiles words

/-- Reads a file. -/
def file (reading : Reading) (word : String) : Except UsageError Reading :=
  match reading.pending with
  | .files words => .ok { reading with pending := .files (words ++ [word]) }
  | _ => do return ⟨← reading.settle, .files [word]⟩

/-- Reads an option that has no value. -/
def raise (reading : Reading) (flag : Flag) : Except UsageError Reading := do
  return { taken := ← (← reading.settle).raise flag }

/-- Reads an option that has a value in the same word or in the next one. -/
def expect (reading : Reading) (parameter : Parameter) (attached : Option String) :
    Except UsageError Reading := do
  let settled ← reading.settle
  match attached with
  | some value => return { taken := ← settled.give parameter value }
  | none => return ⟨settled, .awaiting parameter⟩

/-- The value that is attached to an option of a single letter, with or without `=`. -/
def attached? : List Char → Option String
  | [] => none
  | '=' :: rest => some (String.ofList rest)
  | rest => some (String.ofList rest)

/-- Reads options of a single letter that stand in one word. -/
def letters (reading : Reading) : List Char → Except UsageError Reading
  | [] => .ok reading
  | c :: rest =>
    match Switch.ofLetter? c with
    | none => .error (.unknownOption (String.ofList ['-', c]))
    | some (.flag flag) => do letters (← reading.raise flag) rest
    | some (.parameter parameter) => reading.expect parameter (attached? rest)
    | some .help => do let _ ← reading.settle; .error .help
    | some .version => do let _ ← reading.settle; .error .version

/-- Reads an option that is a word, with the value attached to it by `=`. -/
def option (reading : Reading) (text : List Char) : Except UsageError Reading :=
  let name := text.takeWhile (· != '=')
  let value := (Text.afterFirst ['='] text).map String.ofList
  match Switch.ofWord? (String.ofList name), value with
  | none, _ => .error (.unknownOption (String.ofList ('-' :: '-' :: name)))
  | some (.parameter parameter), value => reading.expect parameter value
  | some _, some _ => .error .needlessValue
  | some (.flag flag), none => reading.raise flag
  | some .help, none => do let _ ← reading.settle; .error .help
  | some .version, none => do let _ ← reading.settle; .error .version

/-- Reads a word that is no option. -/
def plain (reading : Reading) (word : String) : Except UsageError Reading :=
  match reading.pending with
  | .awaiting parameter => .ok { reading with pending := .given parameter word }
  | _ => reading.file word

/-- Reads words. Behind `--` all of them are files. -/
def words (reading : Reading) : List String → Except UsageError Reading
  | [] => .ok reading
  | word :: rest =>
    match word.toList with
    | ['-', '-'] => rest.foldlM file reading
    | '-' :: '-' :: text => do words (← reading.option text) rest
    | '-' :: c :: text => do words (← reading.letters (c :: text)) rest
    | _ => do words (← reading.plain word) rest

end Reading

/-- Reads the words of a command line, without the program's own name. -/
def ofWords (words : List String) : Except UsageError Invocation := do
  let reading ← Reading.words {} words
  let invocation ← reading.settle
  if invocation.quiet && invocation.verbose then .error .conflict
  else if invocation.files.isEmpty then .error .missingFiles
  else return invocation

end Invocation

end Bindery
