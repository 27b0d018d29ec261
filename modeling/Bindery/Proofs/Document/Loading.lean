import Bindery.Proofs.Document.Depth
import Bindery.Proofs.Document.RoundTrip
import Bindery.Proofs.Document.Walk
import Bindery.Proofs.Scope.Ids

/-!
# What a loaded text is made of

While a text is read, the open elements below the document element are one less than the depth, no
element is closed where none is open, and a closed element is never touched again. When it is read,
its nodes make up a forest that is numbered in document order, and an id is answered by the first
node that carries it.
-/

namespace Bindery

open Markup

namespace Forest

variable {forest forest' : Forest} {event : Event} {events : List Event} {n : NodeId}

/-- The open elements of a forest are nodes of it, and one less than the depth. -/
structure Stacked (forest : Forest) : Prop where
  /-- The document element is open, but not among them. -/
  length : forest.opened.length = forest.depth - 1
  /-- They have nodes. -/
  lt : ∀ n ∈ forest.opened, n < forest.nodes.size

/-- Before any element is met, none is open. -/
theorem stacked_empty : empty.Stacked :=
  ⟨rfl, nofun⟩

/-- A node that is added is the last one, and leaves the open elements and the depth alone. -/
theorem add_eq (forest : Forest) (kind : NodeKind) (attributes : List (String × String)) :
    (forest.add kind attributes).nodes.size = forest.nodes.size + 1 ∧
      (forest.add kind attributes).opened = forest.opened ∧
      (forest.add kind attributes).depth = forest.depth := by
  unfold add
  split <;> simp

/-- A node that is added changes no other node that is not open. -/
theorem getElem?_add (kind : NodeKind) (attributes : List (String × String))
    (hn : n < forest.nodes.size) (hclosed : n ∉ forest.opened) :
    (forest.add kind attributes).nodes[n]? = forest.nodes[n]? := by
  have hpush (node : Node) : (forest.nodes.push node)[n]? = forest.nodes[n]? := by
    rw [Array.getElem?_push, if_neg (Nat.ne_of_lt hn)]
  unfold add
  split
  · exact hpush _
  next parent outer hopened =>
    have hparent : parent ≠ n := by
      rintro rfl
      exact hclosed (hopened ▸ List.mem_cons_self)
    simp only [Array.getElem?_modify, if_neg hparent, hpush]

/-- What a boundary does to the nodes, the open elements and the depth. It leaves the innermost
element, begins the document element, or adds a node that it leaves open or not. -/
theorem step_cases (h : forest.step event = .ok forest') :
    (event = .closed ∧ forest'.nodes = forest.nodes ∧ forest'.opened = forest.opened.tail ∧
        forest'.depth = forest.depth - 1) ∨
      (forest.depth = 0 ∧ forest'.nodes = forest.nodes ∧ forest'.opened = forest.opened ∧
        forest'.depth ≤ 1) ∨
      (0 < forest.depth ∧ ∃ kind attributes, forest'.nodes = (forest.add kind attributes).nodes ∧
        (forest'.opened = forest.opened ∧ forest'.depth = forest.depth ∨
          forest'.opened = forest.nodes.size :: forest.opened ∧
            forest'.depth = forest.depth + 1)) := by
  cases event with
  | closed =>
    cases h
    exact .inl ⟨rfl, rfl, rfl, rfl⟩
  | empty tag =>
    obtain ⟨hdepth, rfl⟩ | ⟨hdepth, kind, attributes, rfl⟩ := enter_cases h
    · exact .inr (.inl ⟨hdepth, rfl, rfl, by simp [hdepth]⟩)
    · obtain ⟨-, hopened, hsame⟩ := forest.add_eq kind attributes
      exact .inr (.inr ⟨hdepth, kind, attributes, rfl, .inl ⟨hopened, hsame⟩⟩)
  | opened tag =>
    obtain ⟨entered, hentered, rfl⟩ := exists_enter_of_step h
    have hdepth := depth_step h
    obtain ⟨hzero, rfl⟩ | ⟨hpos, kind, attributes, rfl⟩ := enter_cases hentered
    · refine .inr (.inl ⟨hzero, ?_, ?_, ?_⟩)
      · simp [descend, hzero]
      · simp [descend, hzero]
      · simp [descend, hzero]
    · obtain ⟨hsize, hopened, hsame⟩ := forest.add_eq kind attributes
      refine .inr (.inr ⟨hpos, kind, attributes, ?_, .inr ⟨?_, hdepth⟩⟩)
      · unfold descend
        split <;> rfl
      · unfold descend
        split
        next hzero => omega
        next => simp only [hsize, hopened, Nat.add_sub_cancel]

/-- The elements are open as they should be behind each boundary. -/
theorem Stacked.step (hstacked : forest.Stacked) (h : forest.step event = .ok forest') :
    forest'.Stacked := by
  obtain ⟨hlength, hlt⟩ := hstacked
  obtain ⟨-, hnodes, hopened, hdepth⟩ | ⟨hzero, hnodes, hopened, hdepth⟩ |
    ⟨hpos, kind, attributes, hnodes, hopen⟩ := step_cases h
  · refine ⟨?_, fun n hn => ?_⟩
    · rw [hopened, List.length_tail, hlength, hdepth]
    · rw [hnodes]
      exact hlt n (List.mem_of_mem_tail (hopened ▸ hn))
  · refine ⟨?_, fun n hn => ?_⟩
    · rw [hopened]
      omega
    · rw [hnodes]
      exact hlt n (hopened ▸ hn)
  · have hsize : forest'.nodes.size = forest.nodes.size + 1 :=
      hnodes ▸ (forest.add_eq kind attributes).1
    obtain ⟨hopened, hdepth⟩ | ⟨hopened, hdepth⟩ := hopen
    · refine ⟨by rw [hopened, hlength, hdepth], fun n hn => ?_⟩
      rw [hsize]
      exact Nat.lt_succ_of_lt (hlt n (hopened ▸ hn))
    · refine ⟨by rw [hopened, List.length_cons, hlength, hdepth]; omega, fun n hn => ?_⟩
      rw [hsize]
      rw [hopened] at hn
      rcases List.mem_cons.mp hn with rfl | hn
      · exact Nat.lt_succ_self _
      · exact Nat.lt_succ_of_lt (hlt n hn)

/-- The elements are open as they should be behind any number of boundaries. -/
theorem Stacked.foldlM (hstacked : forest.Stacked)
    (h : events.foldlM Forest.step forest = .ok forest') : forest'.Stacked := by
  induction events generalizing forest with
  | nil =>
    cases h
    exact hstacked
  | cons event events ih =>
    rw [List.foldlM_cons] at h
    cases hstep : forest.step event with
    | error cause => rw [hstep] at h; cases h
    | ok next =>
      rw [hstep] at h
      exact ih (hstacked.step hstep) h

/-- A boundary leaves the nodes of closed elements as they are, and the elements closed. -/
theorem closed_step (h : forest.step event = .ok forest') (hn : n < forest.nodes.size)
    (hclosed : n ∉ forest.opened) :
    n < forest'.nodes.size ∧ n ∉ forest'.opened ∧ forest'.nodes[n]? = forest.nodes[n]? := by
  obtain ⟨-, hnodes, hopened, -⟩ | ⟨-, hnodes, hopened, -⟩ |
    ⟨-, kind, attributes, hnodes, hopen⟩ := step_cases h
  · rw [hnodes, hopened]
    exact ⟨hn, fun hmem => hclosed (List.mem_of_mem_tail hmem), rfl⟩
  · rw [hnodes, hopened]
    exact ⟨hn, hclosed, rfl⟩
  · have hsize := (forest.add_eq kind attributes).1
    refine ⟨?_, ?_, by rw [hnodes, getElem?_add kind attributes hn hclosed]⟩
    · rw [hnodes, hsize]
      exact Nat.lt_succ_of_lt hn
    · obtain ⟨hopened, -⟩ | ⟨hopened, -⟩ := hopen
      · rwa [hopened]
      · rw [hopened, List.mem_cons, not_or]
        exact ⟨Nat.ne_of_lt hn, hclosed⟩

/-- Whatever boundaries follow, the nodes of closed elements stay as they are, and the elements
closed. -/
theorem closed_foldlM (h : events.foldlM step forest = .ok forest') (hn : n < forest.nodes.size)
    (hclosed : n ∉ forest.opened) :
    n ∉ forest'.opened ∧ forest'.nodes[n]? = forest.nodes[n]? := by
  induction events generalizing forest with
  | nil =>
    cases h
    exact ⟨hclosed, rfl⟩
  | cons event events ih =>
    rw [List.foldlM_cons] at h
    cases hstep : forest.step event with
    | error cause => rw [hstep] at h; cases h
    | ok next =>
      rw [hstep] at h
      obtain ⟨hn', hclosed', hsame⟩ := closed_step hstep hn hclosed
      rw [← hsame]
      exact ih h hn' hclosed'

end Forest

namespace TranslationUnit

variable {unit : TranslationUnit} {n : NodeId} {id : String}

/-- An accepted text is loaded as a forest that is numbered in document order, in which an id is
answered by the first node that carries it. As long as it is read, whatever its elements are and
whatever stands between them, there is one more element open than is kept on the stack of open
nodes, no element is closed where none is open, and closed elements are neither opened again nor
changed. -/
theorem inOrder_of_ofText {text : String} (h : ofText text = .ok unit) :
    unit.InOrder ∧
      (∀ id n, unit.byId? id = some n ↔ n < unit.size ∧ (unit.node n).id? = some id ∧
        ∀ m < n, (unit.node m).id? ≠ some id) ∧
      (∀ id, unit.byId? id = none ↔ ∀ n < unit.size, (unit.node n).id? ≠ some id) ∧
      ∀ before after, (Reading.ofText text.toList).events = before ++ after →
        ∃ forest, before.foldlM Forest.step .empty = .ok forest ∧ forest.Stacked ∧
          (after.head? = some .closed → 1 ≤ forest.depth) ∧
          ∀ met, met <+: after → ∃ later, met.foldlM Forest.step forest = .ok later ∧
            ∀ n < forest.nodes.size, n ∉ forest.opened →
              n ∉ later.opened ∧ later.nodes[n]? = forest.nodes[n]? := by
  refine ⟨?_, fun _ _ => byId?_eq_some_iff, fun _ => byId?_eq_none_iff, ?_⟩
  · obtain ⟨elements, rfl, -⟩ := exists_elements h
    exact inOrder_arena elements
  · intro before after hevents
    obtain ⟨final, hfinal, -⟩ := exists_forest h
    obtain ⟨hfold, -, -⟩ := Forest.foldlM_of_ofReading hfinal
    rw [hevents] at hfold
    obtain ⟨forest, hforest, hafter⟩ := Forest.exists_of_foldlM_append hfold
    refine ⟨forest, hforest, Forest.stacked_empty.foldlM hforest, fun hclosed => ?_, ?_⟩
    · obtain ⟨rest, rfl⟩ := List.head?_eq_some_iff.mp hclosed
      obtain ⟨pieces, fault, hpieces⟩ := Reading.exists_pieces text.toList
      rw [Reading.ofText, Reading.ofTextFrom_withoutMark, hpieces] at hevents
      have hopen := Reading.depthFrom_pos_of_closed hevents
      rwa [Forest.depth_foldlM hforest]
    · rintro met ⟨rest, rfl⟩
      obtain ⟨later, hlater, -⟩ := Forest.exists_of_foldlM_append hafter
      exact ⟨later, hlater, fun n hn => Forest.closed_foldlM hlater hn⟩

/-- The nested text is loaded in document order, and its id answered by the outer element. -/
theorem inOrder_nestedText :
    ∃ unit, ofText nestedText = .ok unit ∧ unit.InOrder ∧ unit.byId? ">" = some 0 := by
  obtain ⟨hinOrder, hbyId, -⟩ := inOrder_of_ofText ofText_nestedText
  exact ⟨_, ofText_nestedText, hinOrder, (hbyId ">" 0).mpr ⟨by decide, by decide, nofun⟩⟩

end TranslationUnit

end Bindery
