import Bindery.Proofs.Run.Splitting
import Bindery.Run.Outcome

/-!
# How runs end

A run writes its code when all of it is there. So how it ends is told by the result of its work: a
failure leaves nothing but the log, and a run that succeeds had its settings, generated the code for
its files, and found the place where the code goes.
-/

namespace Bindery

open Binding

/-- Generating the code for all files is steady. -/
theorem Job.steady_generateAll (job : Job) (host : Host) (files : List Path) :
    (job.generateAll host files).Steady :=
  (job.steady_generateFrom host _ files).bind fun _ => Work.steady_pure _

/-- The code that a run writes, to its output file or to the standard output. -/
def Outcome.code (outcome : Outcome) : String :=
  (outcome.written.map Prod.snd).getD outcome.output

namespace Invocation

variable {invocation : Invocation} {host : Host} {settings : Settings} {result : Result}
  {error : RunError} {trace : Trace}

/-- What a run does once it knows its settings. -/
def withSettings (invocation : Invocation) (host : Host) (settings : Settings) :
    Work RunError Result := do
  let generated ← (invocation.job settings).generateAll host invocation.paths
  let sink ← .ofExcept (invocation.sink host)
  return ⟨codeOf generated, sink, if invocation.report then some (reportsOf generated) else none⟩

/-- What a run does once it knows its settings, with a notice in front if nothing is selected. -/
def withNotice (invocation : Invocation) (host : Host) (settings : Settings) :
    Work RunError Result := do
  if !settings.generator.isConfigured then Work.tell .nothingSelected
  invocation.withSettings host settings

/-- A run gets its settings first. -/
theorem work_eq (invocation : Invocation) (host : Host) :
    invocation.work host =
      Work.ofExcept (invocation.settings host.withEnvironmentFile) >>=
        invocation.withNotice host.withEnvironmentFile :=
  rfl

/-- What a run does with its settings is steady. -/
theorem steady_withSettings (invocation : Invocation) (host : Host) (settings : Settings) :
    (invocation.withSettings host settings).Steady :=
  ((invocation.job settings).steady_generateAll host invocation.paths).bind fun _ =>
    (Work.steady_ofExcept _).bind fun _ => Work.steady_pure _

/-- With its settings, a run generates its code and looks for the place where that goes. -/
theorem result_withSettings (invocation : Invocation) (host : Host) (settings : Settings)
    (trace : Trace) :
    (invocation.withSettings host settings).result trace =
      ((invocation.job settings).generateAll host invocation.paths).result trace >>=
        fun generated => (invocation.sink host).map fun sink =>
          ⟨codeOf generated, sink,
            if invocation.report then some (reportsOf generated) else none⟩ := by
  rw [withSettings, Work.result_bind fun _ =>
    (Work.steady_ofExcept _).bind fun _ => Work.steady_pure _]
  congr 1
  funext generated
  exact Work.result_bind_pure _ fun sink => Result.mk (codeOf generated) sink
    (if invocation.report then some (reportsOf generated) else none)

/-- The notice makes no difference to the result. -/
theorem result_withNotice (invocation : Invocation) (host : Host) (settings : Settings)
    (trace trace' : Trace) :
    (invocation.withNotice host settings).result trace =
      (invocation.withSettings host settings).result trace' := by
  unfold withNotice
  split
  · exact invocation.steady_withSettings host settings _ _
  · exact invocation.steady_withSettings host settings _ _

/-- A run ends as what it does with its settings. -/
theorem result_work (invocation : Invocation) (host : Host) (trace : Trace) :
    (invocation.work host).result trace =
      invocation.settings host.withEnvironmentFile >>= fun settings =>
        (invocation.withSettings host.withEnvironmentFile settings).result trace := by
  have hsteady (settings : Settings) :
      (invocation.withNotice host.withEnvironmentFile settings).Steady := fun trace trace' =>
    (result_withNotice invocation _ settings trace trace).trans
      (result_withNotice invocation _ settings trace' trace).symm
  rw [work_eq, Work.result_bind hsteady]
  simp only [result_withNotice _ _ _ trace trace]
  rfl

/-- What a run leaves behind is told by the result of its work and by the commands that were run. -/
theorem exists_run_eq (invocation : Invocation) (host : Host) :
    ∃ log, invocation.run host =
      let commands := ((invocation.work host).run.run .empty).2.commands.toList
      match (invocation.work host).result .empty with
      | .ok result => result.outcome invocation log commands
      | .error error => ⟨1, "", log, error.line, none, commands⟩ := by
  rw [Work.result]
  unfold run
  have hrun : (invocation.work host).run .empty = (invocation.work host).run.run .empty := rfl
  rw [hrun]
  generalize (invocation.work host).run.run .empty = found
  obtain ⟨ended, trace⟩ := found
  exact ⟨_, rfl⟩

/-- A run whose work fails ends with the status 1 and leaves nothing but its log. -/
theorem run_of_error (h : (invocation.work host).result .empty = .error error) :
    (invocation.run host).exit = 1 ∧ (invocation.run host).output = "" ∧
      (invocation.run host).written = none := by
  obtain ⟨log, hrun⟩ := exists_run_eq invocation host
  rw [hrun, h]
  exact ⟨rfl, rfl, rfl⟩

/-- A run whose work succeeds leaves its result. -/
theorem run_of_ok (h : (invocation.work host).result .empty = .ok result) :
    ∃ log commands, invocation.run host = result.outcome invocation log commands := by
  obtain ⟨log, hrun⟩ := exists_run_eq invocation host
  rw [hrun, h]
  exact ⟨_, _, rfl⟩

/-- A run that succeeds had its settings, generated code for its files, and writes all of it to the
one place where the code goes. -/
theorem exists_of_exit_eq_zero (h : (invocation.run host).exit = 0) :
    ∃ settings generated sink, invocation.settings host.withEnvironmentFile = .ok settings ∧
      ((invocation.job settings).generateAll host.withEnvironmentFile
        invocation.paths).result .empty = .ok generated ∧
      invocation.sink host.withEnvironmentFile = .ok sink ∧
      (invocation.run host).output = (if sink = .output then codeOf generated else "") ∧
      (invocation.run host).written =
        invocation.output.map fun file => (⟨file⟩, codeOf generated) := by
  cases hwork : (invocation.work host).result .empty with
  | error error =>
    rw [(run_of_error hwork).1] at h
    cases h
  | ok result =>
    obtain ⟨log, commands, hrun⟩ := run_of_ok hwork
    rw [result_work] at hwork
    obtain ⟨settings, hsettings, hended⟩ := exists_of_bind_eq_ok hwork
    rw [result_withSettings] at hended
    obtain ⟨generated, hgenerated, hplaced⟩ := exists_of_bind_eq_ok hended
    obtain ⟨sink, hsink, rfl⟩ := exists_of_map_eq_ok hplaced
    rw [hrun]
    exact ⟨settings, generated, sink, hsettings, hgenerated, hsink, rfl, rfl⟩

/-- Without an output file, the code goes to the standard output. -/
theorem sink_of_output_eq_none {sink : Sink} (houtput : invocation.output = none)
    (h : invocation.sink host = .ok sink) : sink = .output := by
  rw [Invocation.sink, houtput] at h
  dsimp only at h
  split at h
  · cases h
  · cases h
    rfl

/-- The code that a run writes which succeeds is what it generated for its files. -/
theorem exists_code_of_exit_eq_zero (h : (invocation.run host).exit = 0) :
    ∃ settings generated, invocation.settings host.withEnvironmentFile = .ok settings ∧
      ((invocation.job settings).generateAll host.withEnvironmentFile
        invocation.paths).result .empty = .ok generated ∧
      (invocation.run host).code = codeOf generated := by
  obtain ⟨settings, generated, sink, hsettings, hgenerated, hsink, houtput, hwritten⟩ :=
    exists_of_exit_eq_zero h
  refine ⟨settings, generated, hsettings, hgenerated, ?_⟩
  rw [Outcome.code, hwritten, houtput]
  cases hfile : invocation.output with
  | none => exact if_pos (sink_of_output_eq_none hfile hsink)
  | some file => rfl

end Invocation

end Bindery
