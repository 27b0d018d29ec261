import Bindery.Proofs.Binding.Identifiers
import Bindery.Proofs.Run.Result

/-!
# Splitting a run

A run over two lists of files, one after the other, is a run over the first list that goes on with
the second one. All that the second part has to know of the first is the number that the counter has
come to, and that can be read off the reports: each file moves the counter on by the number of its
statements.
-/

namespace Bindery

open Binding

/-- The number of statements that a report tells of. -/
def Binding.Report.statements (report : Report) : Nat :=
  report.enums + report.classes

/-- The code for two lists of files is that for the first and then that for the second. -/
theorem Binding.codeOf_append (generated further : List Generated) :
    codeOf (generated ++ further) = codeOf generated ++ codeOf further := by
  rw [codeOf, List.map_append, String.join_append, codeOf, codeOf]

namespace Job

variable {job : Job} {host : Host} {counter next : Counter} {trace : Trace}

/-- The same job, with another first number. -/
def startingAt (job : Job) (start : UInt64) : Job :=
  { job with
    settings :=
      { job.settings with generator := { job.settings.generator with counterStart := start } } }

/-- Where a counter is given, the first number of the job does not matter. -/
theorem generateFrom_startingAt (job : Job) (host : Host) (start : UInt64) (counter : Counter)
    (files : List Path) :
    (job.startingAt start).generateFrom host counter files =
      job.generateFrom host counter files := by
  induction files generalizing counter with
  | nil => rfl
  | cons file rest ih =>
    have hfile : (job.startingAt start).generate host file counter =
        job.generate host file counter := rfl
    simp only [generateFrom, hfile, ih]

/-- Two lists of files, one after the other, are worked on in two parts. -/
theorem generateFrom_append (job : Job) (host : Host) (counter : Counter)
    (files others : List Path) :
    job.generateFrom host counter (files ++ others) = do
      let (generated, next) ← job.generateFrom host counter files
      let (further, last) ← job.generateFrom host next others
      return (generated ++ further, last) := by
  induction files generalizing counter with
  | nil => simp [generateFrom]
  | cons file rest ih => simp [generateFrom, ih]

/-- How the work on a file and the files behind it ends. -/
theorem result_generateFrom_cons (job : Job) (host : Host) (counter : Counter) (file : Path)
    (rest : List Path) (trace : Trace) :
    (job.generateFrom host counter (file :: rest)).result trace =
      (job.generate host file counter).result trace >>= fun found =>
        ((job.generateFrom host found.2 rest).result trace).map fun others =>
          (found.1 :: others.1, others.2) := by
  rw [generateFrom, Work.result_bind]
  · congr 1
    funext found
    exact Work.result_bind_pure _ fun others : List Generated × Counter =>
      (found.1 :: others.1, others.2)
  · intro found
    exact (job.steady_generateFrom host found.2 rest).bind fun _ => Work.steady_pure _

/-- How the work on two lists of files ends. -/
theorem result_generateFrom_append (job : Job) (host : Host) (counter : Counter)
    (files others : List Path) (trace : Trace) :
    (job.generateFrom host counter (files ++ others)).result trace =
      (job.generateFrom host counter files).result trace >>= fun found =>
        ((job.generateFrom host found.2 others).result trace).map fun further =>
          (found.1 ++ further.1, further.2) := by
  rw [generateFrom_append, Work.result_bind]
  · congr 1
    funext found
    exact Work.result_bind_pure _ fun further : List Generated × Counter =>
      (found.1 ++ further.1, further.2)
  · intro found
    exact (job.steady_generateFrom host found.2 others).bind fun _ => Work.steady_pure _

/-- How the work on all files ends. -/
theorem result_generateAll (job : Job) (host : Host) (files : List Path)
    (trace : Trace) :
    (job.generateAll host files).result trace =
      ((job.generateFrom host ⟨job.settings.generator.counterStart⟩ files).result trace).map
        Prod.fst :=
  Work.result_bind_pure _ Prod.fst

/-- The code for a file moves the counter on by the number of its statements. -/
theorem counter_generate {file : Path} {generated : Generated}
    (h : (job.generate host file counter).result trace = .ok (generated, next)) :
    next = counter.advance generated.report.statements := by
  rw [result_generate] at h
  obtain ⟨unit, -, hunit⟩ := exists_of_bind_eq_ok h
  obtain ⟨options, -, hmade⟩ := exists_of_map_eq_ok hunit
  have hcounter := counter_ofDrafts options file (unit.drafts host.directory options) counter
  have hreport : Report.ofDrafts file (unit.drafts host.directory options) = generated.report :=
    congrArg (·.1.report) hmade
  rw [hmade, hreport] at hcounter
  exact hcounter

/-- The code for files moves the counter on by the number of all their statements. -/
theorem counter_generateFrom {files : List Path} {generated : List Generated}
    (h : (job.generateFrom host counter files).result trace = .ok (generated, next)) :
    next = counter.advance (total (·.report.statements) generated) := by
  induction files generalizing counter generated with
  | nil =>
    cases h
    exact (Counter.advance_zero _).symm
  | cons file rest ih =>
    rw [result_generateFrom_cons] at h
    obtain ⟨found, hfile, hothers⟩ := exists_of_bind_eq_ok h
    obtain ⟨others, hrest, hpair⟩ := exists_of_map_eq_ok hothers
    cases hpair
    rw [ih hrest, counter_generate hfile, total, Counter.advance_advance]

/-- What is left to do for the second of two lists of files, once the code for the first is there:
the job that goes on with the number that the reports of the first lead to. -/
def continuing (job : Job) (generated : List Generated) : Job :=
  job.startingAt
    (job.settings.generator.counterStart + .ofNat (total (·.report.statements) generated))

/-- A run over two lists of files ends as the run over the first that goes on with the second, from
the number that the reports of the first lead to. -/
theorem result_generateAll_append (job : Job) (host : Host) (files others : List Path)
    (trace trace' trace'' : Trace) :
    (job.generateAll host (files ++ others)).result trace =
      (job.generateAll host files).result trace' >>= fun generated =>
        (((job.continuing generated).generateAll host others).result trace'').map
          (generated ++ ·) := by
  rw [result_generateAll, result_generateFrom_append, result_generateAll,
    job.steady_generateFrom host _ files trace' trace]
  cases hfound : (job.generateFrom host ⟨job.settings.generator.counterStart⟩ files).result
      trace with
  | error error => rfl
  | ok found =>
    obtain ⟨generated, next⟩ := found
    have hsecond : ((job.continuing generated).generateAll host others).result trace'' =
        ((job.generateFrom host next others).result trace).map Prod.fst := by
      rw [result_generateAll, continuing, generateFrom_startingAt, counter_generateFrom hfound,
        job.steady_generateFrom host _ others trace'' trace]
      rfl
    change (((job.generateFrom host next others).result trace).map _).map _ =
      (((job.continuing generated).generateAll host others).result trace'').map _
    rw [hsecond]
    cases (job.generateFrom host next others).result trace <;> rfl

/-- A run over two lists of files is a run over the first that goes on with the second: from the
first number, moved on by the number of statements that the reports of the first part tell of. It
succeeds if both parts do, and then generates what the two parts generate, one after the other; if
the first part fails, it fails in the same way, and otherwise if the second part fails. It does not
matter what was done before the runs. -/
theorem generateAll_append (job : Job) (host : Host) (files others : List Path)
    (trace trace' trace'' : Trace) :
    let whole := (job.generateAll host (files ++ others)).result trace
    let first := (job.generateAll host files).result trace'
    let second (generated : List Generated) :=
      ((job.startingAt (job.settings.generator.counterStart +
        .ofNat (total (fun file => file.report.enums + file.report.classes) generated))).generateAll
          host others).result trace''
    ((∃ generated, whole = .ok generated) ↔
        ∃ generated, first = .ok generated ∧ ∃ further, second generated = .ok further) ∧
      (∀ generated further, first = .ok generated → second generated = .ok further →
        whole = .ok (generated ++ further) ∧
          codeOf (generated ++ further) = codeOf generated ++ codeOf further) ∧
      (∀ error, first = .error error → whole = .error error) ∧
      ∀ generated error, first = .ok generated → second generated = .error error →
        whole = .error error := by
  intro whole first second
  have hwhole : whole = first >>= fun generated => (second generated).map (generated ++ ·) :=
    result_generateAll_append job host files others trace trace' trace''
  have herror (error : RunError) (hfirst : first = .error error) : whole = .error error := by
    rw [hwhole, hfirst]
    rfl
  have hsecond (generated : List Generated) (hfirst : first = .ok generated) :
      whole = (second generated).map (generated ++ ·) := by
    rw [hwhole, hfirst]
    rfl
  refine ⟨⟨?_, ?_⟩, ?_, herror, ?_⟩
  · rintro ⟨all, hall⟩
    cases hfirst : first with
    | error error =>
      rw [herror error hfirst] at hall
      cases hall
    | ok generated =>
      rw [hsecond generated hfirst] at hall
      cases hfurther : second generated with
      | error error =>
        rw [hfurther] at hall
        cases hall
      | ok further => exact ⟨generated, rfl, further, hfurther⟩
  · rintro ⟨generated, hfirst, further, hfurther⟩
    exact ⟨generated ++ further, by rw [hsecond generated hfirst, hfurther]; rfl⟩
  · intro generated further hfirst hfurther
    exact ⟨by rw [hsecond generated hfirst, hfurther]; rfl, codeOf_append generated further⟩
  · intro generated error hfirst hfurther
    rw [hsecond generated hfirst, hfurther]
    rfl

end Job

end Bindery
