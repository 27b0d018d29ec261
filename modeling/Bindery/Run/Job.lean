import Bindery.Binding.Generate
import Bindery.Run.Input
import Bindery.Text.Json

/-!
# Generating code for a list of files

The files are worked on in order, with one counter for all of them. The first file that fails ends
the work.
-/

namespace Bindery

open Binding

/-- What is to be done with each file. -/
structure Job where
  /-- The settings. -/
  settings : Settings
  /-- Whether the files are translation units already. -/
  isXml : Bool
  deriving DecidableEq, Repr

namespace Job

/-- The file that classes have to be declared in, if it is a given one. Translation units do not
tell which source file they stand for. -/
def restriction? (job : Job) (host : Host) (file : Path) : Except RunError (Option Path) :=
  if job.isXml || !job.settings.generator.restrictToInput then .ok none
  else
    match Path.absolute? host.directory file with
    | some path => .ok (some path)
    | none => .error (.resolve file)

/-- Gets the translation unit for a file. -/
def unit (job : Job) (host : Host) (file : Path) : Work RunError TranslationUnit :=
  if job.isXml then (host.readUnit file).mapError (.load file)
  else (host.parseUnit job.settings.parser file).mapError (.parse file)

/-- The options for a file. -/
def options (job : Job) (host : Host) (file : Path) : Except RunError Options :=
  (job.restriction? host file).map job.settings.generator.optionsFor

/-- Answers a question to a translation unit that was not asked anything before. -/
def ask {α : Type} (query : Query α) : Work RunError α := do
  let trace ← get
  let (answer, session) := query.run (.start trace.journal)
  set { trace with journal := session.journal }
  return answer

/-- Generates the code for a file, from the given counter on. -/
def generate (job : Job) (host : Host) (file : Path) (counter : Counter) :
    Work RunError (Generated × Counter) := do
  let unit ← job.unit host file
  Work.tell (.inputReady file.text unit.size)
  let options ← .ofExcept (job.options host file)
  ask (unit.generate host.directory file options counter)

/-- Generates the code for files in order, from the given counter on. -/
def generateFrom (job : Job) (host : Host) (counter : Counter) :
    List Path → Work RunError (List Generated × Counter)
  | [] => return ([], counter)
  | file :: rest => do
    let (generated, next) ← job.generate host file counter
    let (others, last) ← job.generateFrom host next rest
    return (generated :: others, last)

/-- Generates the code for files in order. -/
def generateAll (job : Job) (host : Host) (files : List Path) :
    Work RunError (List Generated) := do
  return (← job.generateFrom host ⟨job.settings.generator.counterStart⟩ files).1

end Job

namespace Binding

/-- The code for all files. -/
def codeOf (generated : List Generated) : String :=
  String.join (generated.map Generated.code)

/-- A report as an entry of the list of reports. -/
def Report.json (report : Report) : String :=
  Text.Json.object 1 (("file", Text.Json.string report.file)
    :: report.counts.map fun count => (count.1, toString count.2))

/-- The reports on all files. -/
def reportsOf (generated : List Generated) : String :=
  Text.Json.array 0 (generated.map (·.report.json))

end Binding

end Bindery
