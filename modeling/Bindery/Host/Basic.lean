import Bindery.Path
import Bindery.Text.Utf8

/-!
# The host

What a run can see of the machine it runs on: the directory it is started in, the environment, what
stands under a path and what reading it yields, what running a program yields, and where what is
written would go. All of it is given beforehand, so that a run is a function of its host.
-/

namespace Bindery

/-- A fault that the operating system reports. -/
inductive OsFault where
  /-- There is no such file. -/
  | notFound
  /-- The file may not be used in this way. -/
  | denied
  /-- Something on the way is not a directory. -/
  | notDirectory
  /-- The file is a directory. -/
  | isDirectory
  /-- A name on the way is too long. -/
  | nameTooLong
  /-- There was nothing that could have been started. -/
  | noChild
  /-- There is no room for more. -/
  | noSpace
  /-- Nobody is there any more to read what is written. -/
  | brokenPipe
  /-- The host cannot do this at all. -/
  | notSupported
  deriving DecidableEq, Repr

/-- The wording of a fault of the operating system. -/
def OsFault.message : OsFault → String
  | .notFound => "No such file or directory (os error 2)"
  | .noChild => "No child processes (os error 10)"
  | .denied => "Permission denied (os error 13)"
  | .notDirectory => "Not a directory (os error 20)"
  | .isDirectory => "Is a directory (os error 21)"
  | .noSpace => "No space left on device (os error 28)"
  | .brokenPipe => "Broken pipe (os error 32)"
  | .nameTooLong => "File name too long (os error 36)"
  | .notSupported => "Operation not supported (os error 95)"

/-- Why a file cannot be read or written. -/
inductive FileFault where
  /-- The operating system reports a fault. -/
  | os (fault : OsFault)
  /-- The name holds the character zero. -/
  | zeroInName
  /-- The content is not text. -/
  | notText
  deriving DecidableEq, Repr

/-- The wording of a file fault. -/
def FileFault.message : FileFault → String
  | .os fault => fault.message
  | .zeroInName => "file name contained an unexpected NUL byte"
  | .notText => "stream did not contain valid UTF-8"

/-- Why a program cannot be started. -/
inductive LaunchFault where
  /-- The operating system reports a fault. -/
  | os (fault : OsFault)
  /-- The program's name or an argument holds the character zero. -/
  | zeroInWord
  deriving DecidableEq, Repr

/-- The wording of a launch fault. -/
def LaunchFault.message : LaunchFault → String
  | .os fault => fault.message
  | .zeroInWord => "nul byte found in provided data"

/-- How a program ends. -/
inductive ExitStatus where
  /-- By itself, with a status code. -/
  | code (n : Nat)
  /-- By the kill signal. -/
  | killed
  deriving DecidableEq, Repr

/-- A program ends well with the code zero. -/
def ExitStatus.isSuccess : ExitStatus → Bool
  | .code 0 => true
  | _ => false

/-- The wording of a status. -/
def ExitStatus.message : ExitStatus → String
  | .code n => "exit status: " ++ toString n
  | .killed => "signal: 9 (SIGKILL)"

/-- What a program that was run leaves behind. -/
structure Completion where
  /-- How it ended. -/
  status : ExitStatus
  /-- What it wrote to its standard output. -/
  output : List UInt8
  deriving DecidableEq, Repr

/-- The variables of an environment with their values, in order. -/
abbrev Environment := List (String × String)

namespace Environment

/-- The value of a variable. -/
def get? (environment : Environment) (name : String) : Option String :=
  environment.lookup name

/-- The value that is found for a name, which may itself hold a `=`: what stands behind the name and
a `=` in the first variable that begins so when it is written as `NAME=value`. -/
def find? (environment : Environment) (name : List Char) : Option (List Char) :=
  if name.isEmpty then none
  else
    environment.findSome? fun variable_ =>
      let entry := (variable_.1 ++ "=" ++ variable_.2).toList
      if (name ++ ['=']).isPrefixOf entry then some (entry.drop (name.length + 1)) else none

/-- Sets a variable: a new one comes last, one that is there keeps its place. -/
def set (environment : Environment) (name value : String) : Environment :=
  match environment with
  | [] => [(name, value)]
  | (known, old) :: rest =>
    if known = name then (name, value) :: rest else (known, old) :: Environment.set rest name value

/-- The environment that entries `NAME=value` stand for. An entry without a name is left out. -/
def ofEntries (entries : List (List Char)) : Environment :=
  entries.filterMap fun entry =>
    let name := entry.takeWhile (· != '=')
    if name.isEmpty then none
    else (Text.afterFirst ['='] entry).map fun value => (String.ofList name, String.ofList value)

end Environment

/-- What stands under a path. -/
inductive EntryKind where
  /-- A regular file. -/
  | regular
  /-- A directory, a device or anything else. -/
  | other
  deriving DecidableEq, Repr

/-- Where what is written goes. -/
inductive Sink where
  /-- To a regular file, which then holds that and nothing else. -/
  | file
  /-- To the standard output. -/
  | output
  /-- To the standard error stream. -/
  | errors
  /-- Nowhere: nothing of it is kept. -/
  | nowhere
  deriving DecidableEq, Repr

/-- What a run can see of its machine. -/
structure Host where
  /-- The directory that relative names are seen from; there is none if it was removed. -/
  directory : Option Path
  /-- The environment. -/
  environment : Environment
  /-- The user's own directory, as the system has it registered. -/
  home : Option Path
  /-- What stands under a path. -/
  stat : Path → Except FileFault EntryKind
  /-- What reading a file yields. -/
  read : Path → Except FileFault (List UInt8)
  /-- What running a program yields; its name comes first, then the arguments. -/
  execute : List String → Except LaunchFault Completion
  /-- Where what is written to a path goes. -/
  sink : Path → Except FileFault Sink
  /-- What is in the way of writing to the standard output. -/
  outputFault? : Option FileFault

namespace Host

/-- The text of a file. -/
def readText (host : Host) (file : Path) : Except FileFault String := do
  (Text.decode (← host.read file)).mapError fun _ => .notText

/-- Whether anything stands under a path. -/
def isThere (host : Host) (p : Path) : Bool :=
  (host.stat p).isOk

/-- Whether a regular file stands under a path. -/
def isRegular (host : Host) (p : Path) : Bool :=
  (host.stat p).toOption == some .regular

end Host

end Bindery
