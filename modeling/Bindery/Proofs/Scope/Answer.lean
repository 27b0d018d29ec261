import Bindery.Proofs.Scope.Memory

/-!
# Questions with one answer

A question to a translation unit may use the memory of the session and add to it, but its answer
does not depend on it. `Answers` says so for a single question. The rules of this file carry it
over to questions that are put together from others, one rule for each way of doing so.
-/

namespace Bindery.TranslationUnit

variable {α β γ : Type} {unit : TranslationUnit}

/-- A question that is not put has its answer. -/
theorem Answers.pure (unit : TranslationUnit) (a : α) :
    unit.Answers (Pure.pure a : Query α) a :=
  fun _ hsound => ⟨rfl, hsound⟩

/-- Telling the log something is no question. -/
theorem Answers.tell (unit : TranslationUnit) (notice : Log.Notice) :
    unit.Answers (Session.tell notice) () :=
  fun _ hsound => ⟨rfl, sound_tell hsound notice⟩

/-- A question may depend on the answer to the one before it. -/
theorem Answers.bind {query : Query α} {next : α → Query β} {a : α} {b : β}
    (hquery : unit.Answers query a) (hnext : unit.Answers (next a) b) :
    unit.Answers (query >>= next) b := by
  intro session hsound
  obtain ⟨hanswer, hafter⟩ := hquery session hsound
  have hrun : (query >>= next).run session =
      (next (query.run session).1).run (query.run session).2 := rfl
  rw [hrun, hanswer]
  exact hnext _ hafter

/-- A question may be put for what it leaves behind alone. -/
theorem Answers.discard {query : Query α} {a : α} (h : unit.Answers query a) :
    unit.Answers (Functor.discard query) () :=
  fun session hsound => ⟨rfl, (h session hsound).2⟩

/-- A question about each item of a list. -/
theorem Answers.mapM {ask : α → Query β} {answer : α → β} {items : List α}
    (h : ∀ a ∈ items, unit.Answers (ask a) (answer a)) :
    unit.Answers (items.mapM ask) (items.map answer) := by
  induction items with
  | nil => exact .pure unit []
  | cons a items ih =>
    rw [List.forall_mem_cons] at h
    rw [List.mapM_cons, List.map_cons]
    exact h.1.bind ((ih h.2).bind (.pure unit _))

/-- A question about each item of a list that has no answer of its own. -/
theorem Answers.forM {ask : α → Query Unit} {items : List α}
    (h : ∀ a ∈ items, unit.Answers (ask a) ()) : unit.Answers (items.forM ask) () := by
  induction items with
  | nil => exact .pure unit ()
  | cons a items ih =>
    rw [List.forall_mem_cons] at h
    rw [List.forM_eq_forM, List.forM_cons]
    exact h.1.bind (ih h.2)

/-- A question about each item of a list that carries a value along. -/
theorem Answers.foldlM {ask : β → α → Query β} {answer : β → α → β} {items : List α}
    (h : ∀ b, ∀ a ∈ items, unit.Answers (ask b a) (answer b a)) (start : β) :
    unit.Answers (items.foldlM ask start) (items.foldl answer start) := by
  induction items generalizing start with
  | nil => exact .pure unit start
  | cons a items ih =>
    rw [List.foldlM_cons, List.foldl_cons]
    exact (h start a List.mem_cons_self).bind
      (ih (fun b item hitem => h b item (List.mem_cons_of_mem _ hitem)) _)

end Bindery.TranslationUnit
