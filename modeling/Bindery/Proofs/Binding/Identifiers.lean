import Bindery.Proofs.Binding.Numbering
import Bindery.Proofs.Text.Fields
import Std.Data.String.ToNat

/-!
# Numbered identifiers

Statements are numbered one after the other. What draws from a counter and makes statements numbers
them from the counter on, and moves the counter on by as many as it makes; that carries over from
the drafts of single statements to all the drafts for a file, where it is as many as the report
tells of. As no two numbers are written alike, no two statements have the same identifier, as long
as there are numbers left.
-/

namespace Bindery.Binding

/-- The statements of a listing, in order. -/
def Listing.statements (listing : Listing) : List Statement :=
  listing.blocks.flatMap Block.statements

/-- Each statement declares the word of its template, with the number that the counter has come
to. -/
def NumberedFrom (counter : Counter) : List Statement → Prop
  | [] => True
  | statement :: rest =>
    statement.identifier = numbered statement.template.word counter.next.toNat ∧
      NumberedFrom (counter.advance 1) rest

/-- Statements are numbered if some of them are, and the others from the next number on. -/
theorem numberedFrom_append {counter : Counter} {statements later : List Statement} :
    NumberedFrom counter (statements ++ later) ↔
      NumberedFrom counter statements ∧
        NumberedFrom (counter.advance statements.length) later := by
  induction statements generalizing counter with
  | nil => simp [NumberedFrom, Counter.advance_zero]
  | cons statement rest ih =>
    rw [List.cons_append, NumberedFrom, ih, NumberedFrom, List.length_cons, and_assoc,
      Counter.advance_advance, Nat.add_comm 1]

/-- The number of a statement is told by its place, as long as there are numbers left. -/
theorem NumberedFrom.identifier_eq {counter : Counter} {statements : List Statement}
    (h : NumberedFrom counter statements) (hfits : counter.next.toNat + statements.length < 2 ^ 64)
    {k : Nat} {statement : Statement} (hk : statements[k]? = some statement) :
    statement.identifier = numbered statement.template.word (counter.next.toNat + k) := by
  induction statements generalizing counter k with
  | nil => cases hk
  | cons first rest ih =>
    cases k with
    | zero =>
      cases hk
      exact h.1
    | succ k =>
      rw [List.length_cons] at hfits
      have hnext : (counter.advance 1).next.toNat = counter.next.toNat + 1 :=
        Counter.toNat_next_advance (by omega)
      have hrest := ih h.2 (by omega) hk
      rwa [hnext, Nat.add_assoc, Nat.add_comm 1] at hrest

/-- Identifiers with different numbers are different, whatever they begin with. -/
theorem eq_of_numbered_eq {word word' : String} {n m : Nat}
    (h : numbered word n = numbered word' m) : n = m := by
  have hdigits (n : Nat) : '_' ∉ (toString n).toList := fun hmem =>
    absurd (isDigit_of_mem_toString hmem) (by decide)
  have hlast (word : String) (n : Nat) :
      Text.afterLast '_' (numbered word n).toList = (toString n).toList := by
    have hchars : (numbered word n).toList = word.toList ++ '_' :: (toString n).toList := by
      simp [numbered]
    rw [hchars, Text.afterLast_append_cons, Text.afterLast_of_not_mem (hdigits n)]
  have hsame : (toString n).toList = (toString m).toList := by rw [← hlast word, h, hlast]
  exact Nat.repr_inj.mp (String.toList_inj.mp hsame)

/-- As long as there are numbers left, no two statements have the same identifier. -/
theorem NumberedFrom.nodup {counter : Counter} {statements : List Statement}
    (h : NumberedFrom counter statements)
    (hfits : counter.next.toNat + statements.length < 2 ^ 64) :
    (statements.map Statement.identifier).Nodup := by
  rw [List.Nodup, List.pairwise_map, List.pairwise_iff_getElem]
  intro i j hi hj hlt heq
  rw [h.identifier_eq hfits (List.getElem?_eq_getElem hi),
    h.identifier_eq hfits (List.getElem?_eq_getElem hj)] at heq
  have hsame := eq_of_numbered_eq heq
  omega

/-- What draws from a counter numbers the statements that it makes from the counter on, and moves
the counter on by as many. -/
def Numbers {α : Type} (work : StateM Counter α) (made : α → List Statement) : Prop :=
  ∀ counter, NumberedFrom counter (made (work.run counter).1) ∧
    (work.run counter).2 = counter.advance (made (work.run counter).1).length

/-- Numbering goes on where it has come to. -/
theorem Numbers.bind {α β γ : Type} {first : StateM Counter α} {next : α → StateM Counter β}
    {made : α → List Statement} {made' : β → List Statement} (f : α → β → γ)
    (hfirst : Numbers first made) (hnext : ∀ a, Numbers (next a) made') {all : γ → List Statement}
    (hall : ∀ a b, all (f a b) = made a ++ made' b) :
    Numbers (do let a ← first; let b ← next a; return f a b) all := by
  intro counter
  have hrun : (do let a ← first; let b ← next a; return f a b : StateM Counter γ).run counter =
      let found := first.run counter
      let more := (next found.1).run found.2
      (f found.1 more.1, more.2) := rfl
  obtain ⟨hnumbered, hcounter⟩ := hfirst counter
  obtain ⟨hnumbered', hcounter'⟩ := hnext (first.run counter).1 (first.run counter).2
  rw [hrun]
  simp only [hall, numberedFrom_append, List.length_append]
  rw [hcounter] at hnumbered' hcounter' ⊢
  exact ⟨⟨hnumbered, hnumbered'⟩, hcounter'.trans (by rw [Counter.advance_advance])⟩

/-- Making statements item by item numbers all of them. -/
theorem Numbers.mapM {α β : Type} {step : α → StateM Counter β} {made : β → List Statement}
    (h : ∀ a, Numbers (step a) made) (items : List α) :
    Numbers (items.mapM step) (List.flatMap made) := by
  induction items with
  | nil => exact fun counter => ⟨trivial, counter.advance_zero.symm⟩
  | cons a items ih =>
    rw [List.mapM_cons]
    exact (h a).bind List.cons (fun _ => ih) fun _ _ => List.flatMap_cons

/-- An enumeration gets the next number. -/
theorem numbers_enumeration (draft : EnumerationDraft) : Numbers draft.statement ([·]) :=
  fun _ => ⟨⟨rfl, trivial⟩, rfl⟩

/-- A class gets the next number. -/
theorem numbers_class (draft : ClassDraft) : Numbers draft.statement ([·]) :=
  fun _ => ⟨⟨rfl, trivial⟩, rfl⟩

/-- The statements for a namespace are numbered. -/
theorem numbers_block (draft : NamespaceDraft) : Numbers draft.block Block.statements := by
  refine (Numbers.mapM numbers_enumeration draft.enumerations).bind
    (fun enumerations classes => (⟨draft.name, enumerations ++ classes⟩ : Block))
    (fun _ => Numbers.mapM numbers_class draft.boundClasses) fun _ _ => ?_
  rw [List.flatMap_singleton', List.flatMap_singleton']

/-- The statements for a file are numbered. -/
theorem numbers_ofDrafts (options : Options) (file : Path) (drafts : List NamespaceDraft) :
    Numbers (Generated.ofDrafts options file drafts) fun generated =>
      generated.listing.statements :=
  Numbers.mapM numbers_block drafts

/-- A block has one statement for each enumeration of its draft and for each bound class. -/
theorem NamespaceDraft.MadeInto.length_statements {draft : NamespaceDraft} {block : Block}
    (h : draft.MadeInto block) :
    draft.enumerations.length + draft.boundClasses.length = block.statements.length := by
  obtain ⟨-, enumerations, classes, hstatements, henumerations, hclasses⟩ := h
  rw [hstatements, List.length_append, henumerations.length_eq, hclasses.length_eq]

/-- There are as many statements for a file as its report tells of enumerations and classes. -/
theorem length_statements_ofDrafts (options : Options) (file : Path) (drafts : List NamespaceDraft)
    (counter : Counter) :
    ((Generated.ofDrafts options file drafts).run counter).1.listing.statements.length =
      (Report.ofDrafts file drafts).enums + (Report.ofDrafts file drafts).classes := by
  rw [Listing.statements, List.length_flatMap, ← map_eq_of_forall₂
    (madeInto_ofDrafts options file drafts counter) NamespaceDraft.MadeInto.length_statements,
    List.sum_map_add, Report.ofDrafts, total_eq_sum, List.length_flatMap]

/-- The counter moves on by the numbers of enumerations and classes that the report tells. -/
theorem counter_ofDrafts (options : Options) (file : Path) (drafts : List NamespaceDraft)
    (counter : Counter) :
    ((Generated.ofDrafts options file drafts).run counter).2 =
      counter.advance
        ((Report.ofDrafts file drafts).enums + (Report.ofDrafts file drafts).classes) := by
  rw [← length_statements_ofDrafts options file drafts counter]
  exact (numbers_ofDrafts options file drafts counter).2

end Bindery.Binding
