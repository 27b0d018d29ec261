import Bindery.Run.Outcome

/-!
# The program

Collects what a run can see of its machine, lets `Host.call` decide, and carries out what it has
decided. Programs are not started: every source file has to be a translation unit already.
-/

namespace Bindery

/-- The fault that an error of the system stands for. -/
def FileFault.ofError : IO.Error → FileFault
  | .noFileOrDirectory .. => .os .notFound
  | .permissionDenied .. => .os .denied
  | .inappropriateType _ code _ => if code = 21 then .os .isDirectory else .os .notDirectory
  | _ => .os .notSupported

/-- What is seen of a path. -/
structure Sight where
  /-- What stands under it. -/
  kind : Except FileFault EntryKind
  /-- What reading it yields. -/
  content : Except FileFault (List UInt8)

/-- What the system answers, or why it does not. -/
def answerOf {α : Type} (question : IO α) : IO (Except FileFault α) := do
  try
    return .ok (← question)
  catch error =>
    return .error (.ofError error)

/-- Looks at a path and reads it. -/
def look (file : Path) : IO (Path × Sight) := do
  if file.text.toList.contains '\x00' then
    return (file, ⟨.error .zeroInName, .error .zeroInName⟩)
  let kind ← answerOf do
    match (← (← IO.FS.realPath file.text).metadata).type with
    | .file => return .regular
    | _ => return .other
  let content ← answerOf do return (← IO.FS.readBinFile file.text).toList
  return (file, ⟨kind, content⟩)

/-- The host on which certain files are seen. Where what is written goes is left to the system: for
the host every path leads to a regular file. -/
def Host.ofSights (directory home : Option Path) (environment : Environment)
    (sights : List (Path × Sight)) : Host where
  directory := directory
  environment := environment
  home := home
  stat file := (sights.lookup file).elim (.error (.os .notFound)) Sight.kind
  read file := (sights.lookup file).elim (.error (.os .notFound)) Sight.content
  execute _ := .error (.os .notSupported)
  sink _ := .ok .file
  outputFault? := none

/-- The number of the user, in what the system tells of a process. -/
def userNumber? (status : String) : Option (List Char) :=
  (Text.fields (· == '\n') status.toList).findSome? fun line =>
    match Text.fields (· == '\t') line with
    | title :: number :: _ => if title = "Uid:".toList then some number else none
    | _ => none

/-- The own directory of the user with a number, in a list of all users. -/
def homeOf? (number : List Char) (users : String) : Option Path :=
  (Text.fields (· == '\n') users.toList).findSome? fun line =>
    match Text.fields (· == ':') line with
    | [_, _, known, _, _, home, _] => if known = number then some ⟨String.ofList home⟩ else none
    | _ => none

/-- The own directory of the user of the process, if that is registered. -/
def readHome : IO (Option Path) := do
  try
    let number := userNumber? (← IO.FS.readFile "/proc/self/status")
    let users ← IO.FS.readFile "/etc/passwd"
    return number.bind (homeOf? · users)
  catch _ =>
    return none

/-- The directory of the process, if it is there. -/
def readDirectory : IO (Option Path) := do
  try
    return some ⟨(← IO.currentDir).toString⟩
  catch _ =>
    return none

/-- The environment of the process. -/
def readEnvironment : IO Environment := do
  match Text.decode (← IO.FS.readBinFile "/proc/self/environ").toList with
  | .ok text => return .ofEntries (Text.fields (· == '\x00') text.toList)
  | .error _ => return []

/-- The host of the process, for a run with the given words. -/
def readHost (words : List String) : IO Host := do
  let directory ← readDirectory
  let home ← readHome
  let environment ← readEnvironment
  let first ← (Path.outward directory EnvironmentFile.file).mapM look
  let host := Host.ofSights directory home environment first
  match Invocation.ofWords words with
  | .error _ => return host
  | .ok invocation =>
    let files := invocation.filesRead host.withEnvironmentFile
    return .ofSights directory home environment (first ++ (← files.mapM look))

/-- Writes a file, or tells why that is not possible. -/
def writeContent (file : Path) (content : String) : IO (Option RunError) := do
  try
    IO.FS.writeFile file.text content
    return none
  catch error =>
    return some (.write file (.ofError error))

/-- Carries out what a run has decided. -/
def Outcome.perform (outcome : Outcome) : IO UInt32 := do
  IO.eprint outcome.log
  let fault ← match outcome.written with
    | some (file, content) => writeContent file content
    | none => pure none
  match fault with
  | some error =>
    IO.eprint error.line
    return 1
  | none =>
    IO.print outcome.output
    IO.eprint outcome.errors
    return outcome.exit.toUInt32

end Bindery

/-- Runs the program with the words of its command line. -/
def main (words : List String) : IO UInt32 := do
  let host ← Bindery.readHost words
  (host.call words).perform
