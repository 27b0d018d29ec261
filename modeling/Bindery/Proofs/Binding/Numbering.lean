import Bindery.Binding.Generate
import Mathlib.Algebra.BigOperators.Group.List.Basic
import Mathlib.Algebra.GroupWithZero.Nat
import Mathlib.Data.List.Forall2

/-!
# Numbering drafts

Each enumeration draft and each bound class makes one statement. Apart from the number in the
identifier, the statement depends on the draft alone.
-/

namespace Bindery.Binding

/-- What holds of an item and its result from every state on, holds of all items of a run. -/
theorem forall₂_mapM {α β σ : Type} {step : α → StateM σ β} {R : α → β → Prop}
    (h : ∀ a state, R a ((step a).run state).1) (items : List α) (state : σ) :
    List.Forall₂ R items ((items.mapM step).run state).1 := by
  induction items generalizing state with
  | nil => exact .nil
  | cons a items ih =>
    rw [List.mapM_cons]
    exact .cons (h a state) (ih _)

/-- Another relation may take the place of one that relates two lists, if it follows for the items
of the first list. -/
theorem forall₂_imp_of_mem {α β : Type} {R S : α → β → Prop} {items : List α} {results : List β}
    (himp : ∀ a ∈ items, ∀ b, R a b → S a b) (h : List.Forall₂ R items results) :
    List.Forall₂ S items results :=
  ((List.forall₂_and_left items results).mpr ⟨himp, h⟩).imp fun _ b hb => hb.1 b hb.2

/-- What is the same for related items, is the same in order for related lists. -/
theorem map_eq_of_forall₂ {α β γ : Type} {R : α → β → Prop} {items : List α} {results : List β}
    (h : List.Forall₂ R items results) {f : α → γ} {f' : β → γ}
    (hf : ∀ {a b}, R a b → f a = f' b) : items.map f = results.map f' := by
  induction h with
  | nil => rfl
  | cons hrelated _ ih => rw [List.map_cons, List.map_cons, hf hrelated, ih]

/-- What follows for each result of an item, holds of all results. -/
theorem forall_mem_of_forall₂ {α β : Type} {R : α → β → Prop} {P : β → Prop} {items : List α}
    {results : List β} (h : List.Forall₂ R items results)
    (hP : ∀ a ∈ items, ∀ b, R a b → P b) : ∀ b ∈ results, P b := by
  induction h with
  | nil => exact List.forall_mem_nil _
  | cons hrelated _ ih =>
    rw [List.forall_mem_cons] at hP ⊢
    exact ⟨hP.1 _ hrelated, ih hP.2⟩

/-- A number is written in digits. -/
theorem isDigit_of_mem_toString {n : Nat} {c : Char} (h : c ∈ (toString n).toList) :
    c.isDigit = true := by
  have hdigits : (toString n).toList = Nat.toDigits 10 n := String.toList_ofList
  rw [hdigits] at h
  exact Nat.isDigit_of_mem_toDigits (by decide) (by decide) h

/-- The statement registers the enumeration of the draft, under some number. -/
def EnumerationDraft.MadeInto (draft : EnumerationDraft) (statement : Statement) : Prop :=
  ∃ n, statement = ⟨.enumeration, draft.qualified, numbered Template.enumeration.word n,
    draft.values.map .value⟩

/-- The statement registers the class of the draft, under some number. -/
def ClassDraft.MadeInto (draft : ClassDraft) (statement : Statement) : Prop :=
  ∃ n, statement = ⟨draft.template, draft.qualified, numbered draft.template.word n,
    draft.directives⟩

/-- The block registers the enumerations of the draft, and then its bound classes. -/
def NamespaceDraft.MadeInto (draft : NamespaceDraft) (block : Block) : Prop :=
  block.name = draft.name ∧ ∃ enumerations classes, block.statements = enumerations ++ classes ∧
    List.Forall₂ EnumerationDraft.MadeInto draft.enumerations enumerations ∧
    List.Forall₂ ClassDraft.MadeInto draft.boundClasses classes

/-- The statement for an enumeration is told by its template. -/
theorem EnumerationDraft.MadeInto.template_eq {draft : EnumerationDraft} {statement : Statement}
    (h : draft.MadeInto statement) : statement.template = .enumeration := by
  obtain ⟨n, rfl⟩ := h
  rfl

/-- The statement for a class has another template. -/
theorem ClassDraft.MadeInto.template_ne {draft : ClassDraft} {statement : Statement}
    (h : draft.MadeInto statement) : statement.template ≠ .enumeration := by
  obtain ⟨n, rfl⟩ := h
  simp only [ClassDraft.template]
  split <;> decide

/-- The templates tell which statements of a block are made of enumerations and which of classes. -/
theorem NamespaceDraft.MadeInto.forall₂_filter {draft : NamespaceDraft} {block : Block}
    (h : draft.MadeInto block) :
    block.statements = block.statements.filter (·.template == .enumeration) ++
        block.statements.filter (·.template != .enumeration) ∧
      List.Forall₂ EnumerationDraft.MadeInto draft.enumerations
        (block.statements.filter (·.template == .enumeration)) ∧
      List.Forall₂ ClassDraft.MadeInto draft.boundClasses
        (block.statements.filter (·.template != .enumeration)) := by
  obtain ⟨_, enumerations, classes, hstatements, henumerations, hclasses⟩ := h
  have henumeration : ∀ statement ∈ enumerations, statement.template = .enumeration :=
    forall_mem_of_forall₂ henumerations fun _ _ _ => EnumerationDraft.MadeInto.template_eq
  have hclass : ∀ statement ∈ classes, statement.template ≠ .enumeration :=
    forall_mem_of_forall₂ hclasses fun _ _ _ => ClassDraft.MadeInto.template_ne
  have hfirst : block.statements.filter (·.template == .enumeration) = enumerations := by
    rw [hstatements, List.filter_append,
      List.filter_eq_self.mpr fun statement hmem => by simpa using henumeration statement hmem,
      List.filter_eq_nil_iff.mpr fun statement hmem => by simpa using hclass statement hmem,
      List.append_nil]
  have hsecond : block.statements.filter (·.template != .enumeration) = classes := by
    rw [hstatements, List.filter_append,
      List.filter_eq_nil_iff.mpr fun statement hmem => by simpa using henumeration statement hmem,
      List.filter_eq_self.mpr fun statement hmem => by simpa using hclass statement hmem,
      List.nil_append]
  rw [hfirst, hsecond]
  exact ⟨hstatements, henumerations, hclasses⟩

/-- The drafts of a file are made into its blocks, one by one and in order. -/
theorem madeInto_ofDrafts (options : Options) (file : Path) (drafts : List NamespaceDraft)
    (counter : Counter) :
    List.Forall₂ NamespaceDraft.MadeInto drafts
      ((Generated.ofDrafts options file drafts).run counter).1.listing.blocks := by
  have henumeration (draft : EnumerationDraft) (counter : Counter) :
      draft.MadeInto (draft.statement.run counter).1 := ⟨counter.next.toNat, rfl⟩
  have hclass (draft : ClassDraft) (counter : Counter) :
      draft.MadeInto (draft.statement.run counter).1 := ⟨counter.next.toNat, rfl⟩
  refine forall₂_mapM (fun draft counter => ?_) drafts counter
  exact ⟨rfl, _, _, rfl, forall₂_mapM henumeration draft.enumerations counter,
    forall₂_mapM hclass draft.boundClasses _⟩

/-- The sum of a count over a list is the sum of the counted numbers. -/
theorem total_eq_sum {α : Type} (count : α → Nat) (items : List α) :
    total count items = (items.map count).sum := by
  induction items with
  | nil => rfl
  | cons a rest ih => rw [total, ih, List.map_cons, List.sum_cons]

/-- The counter when that many more numbers have been drawn. -/
def Counter.advance (counter : Counter) (n : Nat) : Counter :=
  ⟨counter.next + .ofNat n⟩

/-- A counter that nothing is drawn from stays where it is. -/
theorem Counter.advance_zero (counter : Counter) : counter.advance 0 = counter :=
  congrArg Counter.mk (UInt64.add_zero counter.next)

/-- Numbers may be drawn in two parts. -/
theorem Counter.advance_advance (counter : Counter) (n m : Nat) :
    (counter.advance n).advance m = counter.advance (n + m) := by
  rw [advance, advance, advance, UInt64.ofNat_add, UInt64.add_assoc]

/-- As long as there are numbers left, the counter has come on by as many as have been drawn. -/
theorem Counter.toNat_next_advance {counter : Counter} {n : Nat}
    (h : counter.next.toNat + n < 2 ^ 64) :
    (counter.advance n).next.toNat = counter.next.toNat + n := by
  rw [advance, UInt64.toNat_add, UInt64.toNat_ofNat', Nat.add_mod_mod, Nat.mod_eq_of_lt h]

end Bindery.Binding
