import Bindery.Invocation.Usage
import Bindery.Log.Filter
import Bindery.Run.Job

/-!
# Runs of the program

What the program does when it is called with the words of a command line on a host: how it ends,
what it writes to its two output streams and to its output file, and which programs it runs. The
code is written when all of it is there.
-/

namespace Bindery

/-- What a run leaves behind. -/
structure Outcome where
  /-- How the program ends. -/
  exit : Nat
  /-- What it writes to the standard output. -/
  output : String
  /-- The lines of its log, which go to the standard error stream. -/
  log : String
  /-- What it writes to the standard error stream behind the log. -/
  errors : String
  /-- Its output file, with what it writes to it. A regular file then holds that and nothing else;
  what is written to a stream under the name of a file is told with the stream as well. -/
  written : Option (Path × String)
  /-- The commands it runs, in order. -/
  commands : List (List String)
  deriving DecidableEq, Repr

/-- What the program tells of a failure. -/
def RunError.line (error : RunError) : String :=
  "castbind error: " ++ error.message ++ "\n"

/-- What a run that succeeds has to say. -/
structure Result where
  /-- The code for all files. -/
  code : String
  /-- Where the code goes. -/
  sink : Sink
  /-- The reports, if they are asked for. -/
  reports : Option String
  deriving DecidableEq, Repr

/-- What a run that succeeds leaves behind. The code is written to one place; the reports are on the
standard error stream. -/
def Result.outcome (result : Result) (invocation : Invocation) (log : String)
    (commands : List (List String)) : Outcome where
  exit := 0
  output := if result.sink = .output then result.code else ""
  log := log
  errors := (if result.sink = .errors then result.code else "")
    ++ (result.reports.map (· ++ "\n")).getD ""
  written := invocation.output.map fun file => (⟨file⟩, result.code)
  commands := commands

namespace Invocation

/-- The files as paths. -/
def paths (invocation : Invocation) : List Path :=
  invocation.files.map Path.mk

/-- The settings of a run: those of the host, changed by the command line. -/
def settings (invocation : Invocation) (host : Host) : Except RunError Settings := do
  let loaded ← (Settings.load host (invocation.config.map Path.mk)).mapError .settings
  let settings := invocation.apply loaded
  match settings.fault? with
  | some fault => .error (.request fault)
  | none => .ok settings

/-- The files that a run may read, environment files apart. -/
def filesRead (invocation : Invocation) (host : Host) : List Path :=
  let settings := (Settings.userFile? host).toList
    ++ [(invocation.config.map Path.mk).getD Settings.projectFile]
  settings ++ settings.flatMap (Path.outward host.directory)
    ++ if invocation.isXml then invocation.paths else []

/-- The job of a run. -/
def job (invocation : Invocation) (settings : Settings) : Job :=
  ⟨settings, invocation.isXml⟩

/-- Where the code goes: where the path of the output file leads if there is one, and otherwise to
the standard output. -/
def sink (invocation : Invocation) (host : Host) : Except RunError Sink :=
  match invocation.output with
  | some file => (host.sink ⟨file⟩).mapError (.write ⟨file⟩)
  | none =>
    match host.outputFault? with
    | some fault => .error (.print fault)
    | none => .ok .output

/-- Does what a command line asks for. -/
def work (invocation : Invocation) (start : Host) : Work RunError Result := do
  let host := start.withEnvironmentFile
  let settings ← .ofExcept (invocation.settings host)
  if !settings.generator.isConfigured then Work.tell .nothingSelected
  let generated ← (invocation.job settings).generateAll host invocation.paths
  let sink ← .ofExcept (invocation.sink host)
  return ⟨Binding.codeOf generated, sink,
    if invocation.report then some (Binding.reportsOf generated) else none⟩

/-- The filter of a run: that of its environment if it can be read, and otherwise the one that the
command line asks for. -/
def filter (invocation : Invocation) (environment : Environment) : Log.Filter :=
  ((environment.get? "CASTBIND_LOG").bind Log.Filter.read?).getD
    (.ofLevel (if invocation.quiet then .error else if invocation.verbose then .debug else .warn))

/-- The lines of the log that a filter lets through. -/
def logLines (filter : Log.Filter) (journal : Array Log.Notice) : String :=
  let records := (journal.toList.map Log.Notice.record).filter filter.lets
  String.join (records.map fun record => record.line ++ "\n")

/-- Runs the program. -/
def run (invocation : Invocation) (host : Host) : Outcome :=
  let (result, trace) := (invocation.work host).run .empty
  let log := logLines (invocation.filter host.environment) trace.journal
  match result with
  | .ok result => result.outcome invocation log trace.commands.toList
  | .error error => ⟨1, "", log, error.line, none, trace.commands.toList⟩

end Invocation

/-- The program's name and version. -/
def versionText : String := "castbind 0.1.0\n"

/-- How the program is called. -/
def usageText : String :=
  "Usage: castbind [-I DIR]... [-N NS]... [--xml] [--all-files] [-o FILE] [--report]\n"
    ++ "                [-c FILE] [-q | -v] FILES...\n"

/-- What is wrong with a command line. -/
def UsageError.message : UsageError → String
  | .missingFiles => "no input files"
  | .conflict => "options given twice or in conflict"
  | .unknownOption word => "unknown option " ++ word
  | .badValue => "an option has no value"
  | .needlessValue => "a flag has a value"
  | .help => ""
  | .version => ""

/-- What the program leaves behind when its command line asks for no run. -/
def UsageError.outcome : UsageError → Outcome
  | .version => ⟨0, versionText, "", "", none, []⟩
  | .help => ⟨0, usageText, "", "", none, []⟩
  | error => ⟨2, "", "", "error: " ++ error.message ++ "\n" ++ usageText, none, []⟩

/-- Calls the program with the words of a command line. -/
def Host.call (host : Host) (words : List String) : Outcome :=
  match Invocation.ofWords words with
  | .ok invocation => invocation.run host
  | .error error => error.outcome

end Bindery
