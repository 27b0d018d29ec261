import Bindery.Proofs.Binding.Questions
import Bindery.Run.Job

/-!
# Results without the trace

Work tells the log what it does and runs programs, but never looks at the trace of this. `Steady`
says so: how the work ends does not depend on what the trace held before. The rules of this file
carry it over to work that is put together from other work, up to the work on a file, and take the
results of such work apart.
-/

namespace Bindery

/-- What succeeds in two steps, succeeds in each of them. -/
theorem exists_of_bind_eq_ok {ε α β : Type} {ended : Except ε α} {next : α → Except ε β} {b : β}
    (h : ended >>= next = .ok b) : ∃ a, ended = .ok a ∧ next a = .ok b := by
  cases ended with
  | ok a => exact ⟨a, rfl, h⟩
  | error error => cases h

/-- What succeeds with a changed result, succeeds with the result. -/
theorem exists_of_map_eq_ok {ε α β : Type} {ended : Except ε α} {f : α → β} {b : β}
    (h : ended.map f = .ok b) : ∃ a, ended = .ok a ∧ f a = b := by
  cases ended with
  | ok a => exact ⟨a, rfl, Except.ok.inj h⟩
  | error error => cases h

namespace Work

variable {ε δ α β : Type} {trace : Trace}

/-- How work ends that begins with the given trace. -/
def result (work : Work ε α) (trace : Trace) : Except ε α :=
  (work.run.run trace).1

/-- Work that ends in the same way whatever the trace held before. -/
def Steady (work : Work ε α) : Prop :=
  ∀ trace trace', work.result trace = work.result trace'

/-- Doing nothing is steady. -/
theorem steady_pure (a : α) : Steady (pure a : Work ε α) :=
  fun _ _ => rfl

/-- Telling the log something is steady. -/
theorem steady_tell (notice : Log.Notice) : Steady (tell notice : Work ε Unit) :=
  fun _ _ => rfl

/-- What is there, or a failure, is steady. -/
theorem steady_ofExcept (ended : Except ε α) : Steady (ofExcept ended) :=
  fun _ _ => rfl

/-- A failure is steady. -/
theorem steady_throw (error : ε) : Steady (throw error : Work ε α) :=
  fun _ _ => rfl

/-- Putting failures into other words keeps work steady. -/
theorem Steady.mapError {work : Work ε α} (h : work.Steady) (f : ε → δ) :
    (work.mapError f).Steady := by
  intro trace trace'
  have hrun (trace : Trace) :
      (work.mapError f).result trace = (work.result trace).mapError f := rfl
  rw [hrun, hrun, h trace trace']

/-- Work that goes on ends as what it goes on with, or as what it began with if that failed. -/
theorem result_bind {work : Work ε α} {next : α → Work ε β} (hnext : ∀ a, (next a).Steady) :
    (work >>= next).result trace = work.result trace >>= fun a => (next a).result trace := by
  have hrun : (work >>= next).result trace =
      ((ExceptT.bindCont next (work.result trace)).run (work.run.run trace).2).1 := rfl
  rw [hrun]
  cases work.result trace with
  | ok a => exact hnext a _ trace
  | error error => rfl

/-- Work that changes what it has found ends with the changed result. -/
theorem result_bind_pure (work : Work ε α) (f : α → β) :
    (work >>= fun a => pure (f a)).result trace = (work.result trace).map f := by
  rw [result_bind fun a => steady_pure (f a)]
  cases work.result trace <;> rfl

/-- Steady work that goes on with steady work is steady. -/
theorem Steady.bind {work : Work ε α} {next : α → Work ε β} (h : work.Steady)
    (hnext : ∀ a, (next a).Steady) : (work >>= next).Steady := by
  intro trace trace'
  rw [result_bind hnext, result_bind hnext, h trace trace']
  congr 1
  exact funext fun a => hnext a trace trace'

end Work

namespace TranslationUnit

/-- Reading a translation unit is steady. -/
theorem steady_readText (text : String) : (readText text).Steady :=
  (Work.steady_ofExcept _).bind fun _ => (Work.steady_tell _).bind fun _ => Work.steady_pure _

end TranslationUnit

namespace Host

/-- Reading a translation unit from a file is steady. -/
theorem steady_readUnit (host : Host) (file : Path) : (host.readUnit file).Steady :=
  (Work.steady_ofExcept _).bind fun text => TranslationUnit.steady_readText text

/-- Running a program is steady. -/
theorem steady_launch (host : Host) (command : List String) : (host.launch command).Steady :=
  fun _ _ => rfl

/-- Running the parser is steady. -/
theorem steady_runParser (host : Host) (settings : ParserSettings) (file : Path) :
    (host.runParser settings file).Steady := by
  refine (Work.steady_tell _).bind fun _ =>
    ((host.steady_launch _).mapError _).bind fun completion => ?_
  split
  · exact Work.steady_ofExcept _
  · exact Work.steady_throw _

/-- Parsing a file is steady. -/
theorem steady_parseUnit (host : Host) (settings : ParserSettings) (file : Path) :
    (host.parseUnit settings file).Steady :=
  (host.steady_runParser settings file).bind fun text => TranslationUnit.steady_readText text

end Host

namespace Job

open Binding

/-- Getting the translation unit for a file is steady. -/
theorem steady_unit (job : Job) (host : Host) (file : Path) : (job.unit host file).Steady := by
  unfold unit
  split
  · exact (host.steady_readUnit file).mapError _
  · exact (host.steady_parseUnit job.settings.parser file).mapError _

/-- A question to a translation unit that was not asked anything before is answered as any other,
whatever the trace holds. -/
theorem result_ask {α : Type} {unit : TranslationUnit} {query : Query α} {answer : α}
    (h : unit.Answers query answer) (trace : Trace) : (ask query).result trace = .ok answer :=
  congrArg Except.ok (h _ (unit.sound_start trace.journal)).1

/-- The code for a file is generated from its translation unit and under its options, unless one of
them is missing. -/
theorem result_generate (job : Job) (host : Host) (file : Path) (counter : Counter)
    (trace : Trace) :
    (job.generate host file counter).result trace =
      (job.unit host file).result trace >>= fun unit =>
        (job.options host file).map fun options =>
          (Generated.ofDrafts options file (unit.drafts host.directory options)).run counter := by
  have hnext (unit : TranslationUnit) (trace : Trace) :
      Work.result (do
        Work.tell (.inputReady file.text unit.size)
        let options ← .ofExcept (job.options host file)
        ask (unit.generate host.directory file options counter)) trace =
      (job.options host file).map fun options =>
        (Generated.ofDrafts options file (unit.drafts host.directory options)).run counter := by
    cases job.options host file with
    | error error => rfl
    | ok options =>
      exact result_ask (unit.answers_generate host.directory file options counter)
        { trace with journal := trace.journal.push (.inputReady file.text unit.size) }
  rw [generate, Work.result_bind fun unit trace trace' =>
    (hnext unit trace).trans (hnext unit trace').symm]
  simp only [hnext]

/-- Generating the code for a file is steady. -/
theorem steady_generate (job : Job) (host : Host) (file : Path) (counter : Counter) :
    (job.generate host file counter).Steady := by
  intro trace trace'
  rw [result_generate, result_generate, job.steady_unit host file trace trace']

/-- Generating the code for files is steady. -/
theorem steady_generateFrom (job : Job) (host : Host) (counter : Counter) (files : List Path) :
    (job.generateFrom host counter files).Steady := by
  induction files generalizing counter with
  | nil => exact Work.steady_pure _
  | cons file rest ih =>
    exact (job.steady_generate host file counter).bind fun _ => (ih _).bind fun _ =>
      Work.steady_pure _

end Job

end Bindery
