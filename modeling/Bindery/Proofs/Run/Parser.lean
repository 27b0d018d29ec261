import Bindery.Proofs.Run.Splitting

/-!
# Commands that are run

Programs are run by `Host.launch` alone, which leaves the command in the trace. Reading a
translation unit and asking it questions runs none. Getting the translation unit for a source file
runs the parser once, so that the commands of a run are those for its files, up to the first one for
which no code can be generated.
-/

namespace Bindery

namespace Work

variable {ε δ α β : Type} {work : Work ε α} {commands further : List (List String)}

/-- The work runs the given commands, one after the other, and nothing else. -/
def Runs (work : Work ε α) (commands : List (List String)) : Prop :=
  ∀ trace, (work.run.run trace).2.commands.toList = trace.commands.toList ++ commands

/-- How work goes on, and with which trace. -/
theorem run_bind (work : Work ε α) (next : α → Work ε β) (trace : Trace) :
    (work >>= next).run.run trace =
      match work.result trace with
      | .ok a => (next a).run.run (work.run.run trace).2
      | .error error => (.error error, (work.run.run trace).2) := by
  have hrun : (work >>= next).run.run trace =
      (ExceptT.bindCont next (work.result trace)).run (work.run.run trace).2 := rfl
  rw [hrun]
  cases work.result trace <;> rfl

/-- Putting failures into other words runs nothing more. -/
theorem Runs.mapError (h : work.Runs commands) (f : ε → δ) :
    (work.mapError f).Runs commands :=
  h

/-- Work that is followed by work that runs nothing. -/
theorem Runs.bind {next : α → Work ε β} (h : work.Runs commands)
    (hnext : ∀ a, (next a).Runs []) : (work >>= next).Runs commands := by
  intro trace
  rw [run_bind]
  cases work.result trace with
  | ok a =>
    have hrest := hnext a (work.run.run trace).2
    rw [List.append_nil] at hrest
    exact hrest.trans (h trace)
  | error error => exact h trace

end Work

namespace Host

end Host

namespace Job

open Binding

variable (job : Job) (host : Host)

/-- Whether code can be generated for a file: there is a translation unit for it, and its options
are known. -/
def passes (file : Path) : Bool :=
  ((job.unit host file).result .empty).isOk && (job.options host file).isOk

/-- The files that are worked on: those up to the first one that does not pass, and that one. -/
def reached : List Path → List Path
  | [] => []
  | file :: rest => file :: if job.passes host file then reached rest else []

/-- The commands that are run for a file. -/
def commands (file : Path) : List (List String) :=
  if job.isXml then [] else [job.settings.parser.commandLine file]

end Job

end Bindery
