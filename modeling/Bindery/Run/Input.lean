import Bindery.Run.Error
import Bindery.TranslationUnit.Session

/-!
# Input files

An input file is a translation unit itself, or a source file that the external parser turns into
one.
-/

namespace Bindery

/-- What work leaves behind besides its result. -/
structure Trace where
  /-- What it told the log, in order. -/
  journal : Array Log.Notice
  /-- The commands that it ran, in order. -/
  commands : Array (List String)
  deriving DecidableEq, Repr

/-- Nothing told and nothing run. -/
def Trace.empty : Trace :=
  ⟨#[], #[]⟩

/-- Work that tells the log what it does and runs programs, and that may fail. -/
abbrev Work (ε : Type) := ExceptT ε (StateM Trace)

namespace Work

/-- Tells the log something. -/
def tell {ε : Type} (notice : Log.Notice) : Work ε Unit :=
  modify fun trace => { trace with journal := trace.journal.push notice }

/-- What is there, or a failure. -/
def ofExcept {ε α : Type} (result : Except ε α) : Work ε α :=
  ExceptT.mk (pure result)

/-- Work with its failures put into other words. -/
def mapError {ε δ α : Type} (f : ε → δ) (work : Work ε α) : Work δ α :=
  ExceptT.mk do return (← work.run).mapError f

end Work

/-- Reads a translation unit from its text. -/
def TranslationUnit.readText (text : String) : Work InputError TranslationUnit := do
  let unit ← .ofExcept ((TranslationUnit.ofText text).mapError .document)
  Work.tell unit.readNotice
  return unit

namespace Host

/-- Reads a translation unit from a file. -/
def readUnit (host : Host) (file : Path) : Work InputError TranslationUnit := do
  TranslationUnit.readText (← .ofExcept ((host.readText file).mapError .file))

/-- Runs a program. -/
def launch (host : Host) (command : List String) : Work LaunchFault Completion := do
  modify fun trace => { trace with commands := trace.commands.push command }
  .ofExcept (host.execute command)

/-- Runs the parser on a source file. -/
def runParser (host : Host) (settings : ParserSettings) (file : Path) :
    Work InputError String := do
  let command := settings.commandLine file
  Work.tell (.parserStarts command)
  let completion ← (host.launch command).mapError (.parserLaunch settings.program)
  if completion.status.isSuccess then
    .ofExcept ((Text.decode completion.output).mapError .encoding)
  else throw (.parserFailed settings.program completion.status command)

/-- Runs the parser on a source file and reads the translation unit that it writes. -/
def parseUnit (host : Host) (settings : ParserSettings) (file : Path) :
    Work InputError TranslationUnit := do
  TranslationUnit.readText (← host.runParser settings file)

end Host

end Bindery
