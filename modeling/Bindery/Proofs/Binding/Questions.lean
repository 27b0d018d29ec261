import Bindery.Proofs.Binding.Drafts

/-!
# Any questions, in any order

A session is reached by a finite sequence of questions to one translation unit. Each of them may be
answered from what the session remembers of the earlier ones. The main statement says that a
qualified name is never changed by this: it is the one of `scopedName`, whatever was asked before.
-/

namespace Bindery

open Binding

/-- A question that may leave something in the memory of a session. -/
inductive Question where
  /-- The qualified name of a node. -/
  | name (n : NodeId)
  /-- The namespaces directly below the global one. -/
  | topNamespaces
  /-- The members of a class that may be bound. -/
  | members (n : NodeId)
  /-- The bases of a class that may be bound, for the given selection of namespaces. -/
  | bases (selected : List String) (n : NodeId)
  /-- The code for a file. -/
  | code (base : Option Path) (file : Path) (options : Options) (counter : Counter)

/-- Puts a question, for what it leaves behind. -/
def Question.put (unit : TranslationUnit) : Question → Query Unit
  | .name n => discard (unit.qualifiedName n)
  | .topNamespaces => discard unit.selectNamespaces
  | .members n => discard (unit.classify n)
  | .bases selected n => discard (unit.resolveBases selected n)
  | .code base file options counter => discard (unit.generate base file options counter)

namespace TranslationUnit

/-- The session that a sequence of questions leads to. -/
def sessionAfter (unit : TranslationUnit) (journal : Array Log.Notice) (asked : List Question) :
    Session :=
  ((asked.forM (Question.put unit)).run (.start journal)).2

/-- A question leaves a sound session sound. -/
theorem answers_put (unit : TranslationUnit) (question : Question) :
    unit.Answers (question.put unit) () := by
  cases question with
  | name n => exact (answers_qualifiedName unit n).discard
  | topNamespaces => exact (answers_selectNamespaces unit).discard
  | members n => exact (answers_classify unit n).discard
  | bases selected n => exact (answers_resolveBases unit selected n).discard
  | code base file options counter =>
    exact (answers_generate unit base file options counter).discard

/-- Every session that questions lead to is sound. -/
theorem sound_sessionAfter (unit : TranslationUnit) (journal : Array Log.Notice)
    (asked : List Question) : (unit.sessionAfter journal asked).Sound unit :=
  (Answers.forM (fun question _ => answers_put unit question) _ (sound_start unit journal)).2

/-- Whatever was asked before, the qualified name of a node is that of `scopedName`, and so is every
name that the session remembers. `scopedName` itself is settled by the scopes alone: the global
namespace has the empty name, a node on a circle or without a scope is named as if it stood in the
global namespace, and every other node is named below its scope. The scope is the node whose id the
context attribute tells, unless that is the global namespace. -/
theorem qualifiedName_eq_scopedName (unit : TranslationUnit) (journal : Array Log.Notice)
    (asked : List Question) (n : NodeId) :
    ((unit.qualifiedName n).run (unit.sessionAfter journal asked)).1 = unit.scopedName n ∧
      (∀ m qualified, (unit.sessionAfter journal asked).names[m]? = some qualified →
        qualified = unit.scopedName m) ∧
      (unit.isGlobal n = true → unit.scopedName n = "") ∧
      (unit.isGlobal n = false → (unit.OnCircle n ∨ unit.scope? n = none) →
        unit.scopedName n = "::" ++ (unit.node n).name) ∧
      (unit.isGlobal n = false → ¬unit.OnCircle n → ∀ scope, unit.scope? n = some scope →
        unit.scopedName n = unit.scopedName scope ++ "::" ++ (unit.node n).name) ∧
      (∀ m scope, unit.scope? m = some scope ↔
        ∃ context, (unit.node m).attribute? "context" = some context ∧
          unit.byId? context = some scope ∧ unit.isGlobal scope = false) ∧
      ∀ m, unit.isGlobal m = true ↔
        (unit.node m).kind = .nameSpace ∧ (unit.node m).name? = some "::" := by
  have hsound := sound_sessionAfter unit journal asked
  refine ⟨(answers_qualifiedName unit n _ hsound).1, fun _ _ => hsound.eq_scopedName,
    scopedName_of_isGlobal, ?_, ?_, fun _ _ => scope?_eq_some_iff, fun _ => isGlobal_iff⟩
  · rintro hlocal (hcircle | hscope)
    · exact scopedName_of_onCircle hlocal hcircle
    · exact scopedName_of_scope?_eq_none hlocal hscope
  · intro hlocal hcircle scope hscope
    exact scopedName_of_inScope hlocal hcircle hscope

end TranslationUnit

end Bindery
