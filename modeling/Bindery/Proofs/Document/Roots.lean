import Bindery.Proofs.Document.Truncation

/-!
# Texts with several root elements

Nothing keeps an element from beginning behind the end of the document element. So a text is
accepted if it is one document or several, one behind the other. The translation unit is that of all
their elements, as if they had stood in one document, and an id that several documents use leads to
the first of them.
-/

namespace Bindery

namespace Markup

variable {depth : Nat} {text later rest behind : List Char} {pieces more met : List Piece}
  {opened : List (List Char)}

/-- Boundaries of pieces come one list of pieces after the other. -/
theorem boundaries_append (pieces more : List Piece) :
    boundaries (pieces ++ more) = boundaries pieces ++ boundaries more :=
  List.filterMap_append

/-- A text behind another one falls into its pieces as it does alone. -/
theorem Scan.append (h : Scan text pieces rest) (hlater : Scan later more behind) :
    ∃ rest, Scan (text ++ later) (pieces ++ more) rest := by
  induction h with
  | @gap gap hgap =>
    cases hlater with
    | gap hbehind =>
      refine ⟨gap ++ later, .gap fun hmem => ?_⟩
      exact (List.mem_append.mp hmem).elim hgap hbehind
    | @piece between inside following _ piece more hbetween hinside hfollowing =>
      have hfront : '<' ∉ gap ++ between := fun hmem =>
        (List.mem_append.mp hmem).elim hgap hbetween
      rw [← List.append_assoc]
      exact ⟨behind, .piece hfront hinside hfollowing⟩
  | @piece gap inside following rest piece pieces hgap hinside _ ih =>
    obtain ⟨rest, hscan⟩ := ih
    rw [List.append_assoc, List.cons_append, List.append_assoc]
    exact ⟨rest, .piece hgap hinside hscan⟩

/-- A text can be cut between any two of its pieces. -/
theorem Scan.exists_cut (h : Scan text (met ++ more) rest) :
    ∃ first later behind, text = first ++ later ∧ Scan first met behind ∧ Scan later more rest := by
  induction met generalizing text with
  | nil => exact ⟨[], text, [], rfl, .gap List.not_mem_nil, h⟩
  | cons piece met ih =>
    cases h with
    | @piece gap inside following _ _ _ hgap hinside hfollowing =>
      obtain ⟨first, later, behind, rfl, hfirst, hlater⟩ := ih hfollowing
      refine ⟨gap ++ '<' :: (inside ++ first), later, behind, by simp, ?_, hlater⟩
      exact .piece hgap hinside hfirst

/-- A text falls into pieces of markup, or it does so up to a piece that cannot be read. -/
theorem exists_scan (text : List Char) :
    (∃ pieces rest, Scan text pieces rest) ∨
      ∃ front part pieces rest cause, text = front ++ '<' :: part ∧ Scan front pieces rest ∧
        readPiece part = .error cause := by
  induction hlength : text.length using Nat.strongRecOn generalizing text with
  | ind length ih =>
    by_cases hmark : '<' ∈ text
    · obtain ⟨gap, rest, rfl, hgap⟩ := List.eq_append_cons_of_mem hmark
      cases hpiece : readPiece rest with
      | error cause => exact .inr ⟨gap, rest, [], gap, cause, rfl, .gap hgap, hpiece⟩
      | ok found =>
        obtain ⟨piece, left⟩ := found
        obtain ⟨inside, rfl, hinside⟩ := exists_append_of_readPiece hpiece
        have hwhole : Whole inside piece := by
          rw [Whole, ← List.append_nil inside]
          exact hinside []
        have hshorter : left.length < length := by
          rw [← hlength, List.length_append, List.length_cons, List.length_append]
          omega
        rcases ih _ hshorter left rfl with ⟨pieces, behind, hscan⟩ | hcut
        · exact .inl ⟨piece :: pieces, behind, .piece hgap hwhole hscan⟩
        · obtain ⟨front, part, pieces, behind, cause, rfl, hscan, herror⟩ := hcut
          exact .inr ⟨gap ++ '<' :: (inside ++ front), part, piece :: pieces, behind, cause,
            by simp, .piece hgap hwhole hscan, herror⟩
    · exact .inl ⟨[], text, .gap hmark⟩

namespace Reading

/-- What cannot be read behind pieces of markup shows in the reading. -/
theorem fault_ofPieces_ne_none {cause : Error} (opened : List (List Char)) (pieces : List Piece) :
    (ofPieces (some cause) opened pieces).fault ≠ none := by
  induction pieces generalizing opened with
  | nil => exact Option.some_ne_none cause
  | cons piece rest ih =>
    cases piece with
    | opening tag => exact ih _
    | empty tag => exact ih _
    | silent => exact ih _
    | closing name =>
      cases opened with
      | nil => exact Option.some_ne_none _
      | cons expected outer =>
        rw [ofPieces]
        split
        · exact ih _
        · exact Option.some_ne_none _

/-- A text that is read without a fault falls into pieces of markup. -/
theorem exists_scan_of_fault_eq_none (h : (ofText text).fault = none) :
    ∃ pieces rest, Scan text pieces rest := by
  rcases exists_scan text with hscan | ⟨front, part, pieces, rest, cause, rfl, hscan, herror⟩
  · exact hscan
  · rw [ofText_of_cut hscan herror] at h
    exact absurd h (fault_ofPieces_ne_none _ _)

/-- Behind pieces that are read without a fault, the others are read with the elements that are
open there. -/
theorem exists_ofPieces_append (h : (ofPieces none opened met).fault = none) :
    ∃ inner, inner.length = depthFrom opened.length (boundaries met) ∧
      ∀ more, ofPieces none opened (met ++ more) =
        ⟨boundaries met ++ (ofPieces none inner more).events,
          (ofPieces none inner more).fault⟩ := by
  induction met generalizing opened with
  | nil => exact ⟨opened, rfl, fun _ => rfl⟩
  | cons piece rest ih =>
    rw [boundaries_cons]
    cases piece with
    | opening tag =>
      obtain ⟨inner, hlength, hinner⟩ := ih h
      exact ⟨inner, hlength, fun more => by
        rw [List.cons_append, ofPieces, hinner]
        rfl⟩
    | empty tag =>
      obtain ⟨inner, hlength, hinner⟩ := ih h
      exact ⟨inner, hlength, fun more => by
        rw [List.cons_append, ofPieces, hinner]
        rfl⟩
    | silent =>
      obtain ⟨inner, hlength, hinner⟩ := ih h
      exact ⟨inner, hlength, fun more => by
        rw [List.cons_append, ofPieces, hinner]
        rfl⟩
    | closing name =>
      cases opened with
      | nil => cases h
      | cons expected outer =>
        rw [ofPieces] at h
        split at h
        next hname =>
          obtain ⟨inner, hlength, hinner⟩ := ih h
          exact ⟨inner, hlength, fun more => by
            rw [List.cons_append, ofPieces, if_pos hname, hinner]
            rfl⟩
        · cases h

/-- Pieces that are read without a fault are read as their element boundaries. -/
theorem ofPieces_eq (h : (ofPieces none opened pieces).fault = none) :
    ofPieces none opened pieces = ⟨boundaries pieces, none⟩ := by
  rw [← List.append_nil pieces] at h
  exact ofPieces_eq_of_fault_eq_none h none

/-- Behind pieces that are read without a fault and leave nothing open, the others are read as if
nothing came before. -/
theorem ofPieces_append (h : (ofPieces none [] met).fault = none)
    (hclosed : depthFrom 0 (boundaries met) = 0) (more : List Piece) :
    ofPieces none [] (met ++ more) =
      ⟨boundaries met ++ (ofPieces none [] more).events, (ofPieces none [] more).fault⟩ := by
  obtain ⟨inner, hlength, hread⟩ := exists_ofPieces_append h
  rw [List.length_nil, hclosed] at hlength
  obtain rfl := List.eq_nil_of_length_eq_zero hlength
  exact hread more

end Reading

/-- Inside open elements, the pieces up to the one that closes the last of them hold no root. -/
theorem exists_closing (hopen : 0 < depth) (hclosed : depthFrom depth (boundaries pieces) = 0) :
    ∃ met more, pieces = met ++ more ∧ depthFrom depth (boundaries met) = 0 ∧
      rootsFrom depth (boundaries met) = 0 := by
  induction pieces generalizing depth with
  | nil => exact absurd hclosed (Nat.ne_of_gt hopen)
  | cons piece rest ih =>
    -- Either nothing is open behind the piece, or the last element is closed further on.
    have hstep (next : Nat) (hdepth : depthFrom next (boundaries rest) = 0)
        (hevents : ∀ events,
          depthFrom depth (piece.event?.toList ++ events) = depthFrom next events ∧
          rootsFrom depth (piece.event?.toList ++ events) = rootsFrom next events) :
        ∃ met more, piece :: rest = met ++ more ∧ depthFrom depth (boundaries met) = 0 ∧
          rootsFrom depth (boundaries met) = 0 := by
      by_cases hnext : 0 < next
      · obtain ⟨met, more, rfl, hmet, hroots⟩ := ih hnext hdepth
        refine ⟨piece :: met, more, rfl, ?_, ?_⟩
        · rw [boundaries_cons, (hevents _).1, hmet]
        · rw [boundaries_cons, (hevents _).2, hroots]
      · obtain rfl := Nat.eq_zero_of_not_pos hnext
        refine ⟨[piece], rest, rfl, ?_, ?_⟩
        · rw [boundaries_cons, (hevents _).1]
          rfl
        · rw [boundaries_cons, (hevents _).2]
          rfl
    rw [boundaries_cons] at hclosed
    have hne : depth ≠ 0 := Nat.ne_of_gt hopen
    cases piece with
    | opening tag =>
      refine hstep (depth + 1) hclosed fun events => ⟨rfl, ?_⟩
      simp [Piece.event?, rootsFrom, hne, Event.depthBehind]
    | empty tag =>
      refine hstep depth hclosed fun events => ⟨rfl, ?_⟩
      simp [Piece.event?, rootsFrom, hne, Event.depthBehind]
    | silent => exact hstep depth hclosed fun events => ⟨rfl, rfl⟩
    | closing name =>
      refine hstep (depth - 1) hclosed fun events => ⟨rfl, ?_⟩
      simp [Piece.event?, rootsFrom, Event.isClosed, Event.depthBehind]

/-- Where pieces hold a root and leave nothing open, the first of them end with the first root. -/
theorem exists_first_root (hroots : 0 < rootsFrom 0 (boundaries pieces))
    (hclosed : depthFrom 0 (boundaries pieces) = 0) :
    ∃ met more, pieces = met ++ more ∧ depthFrom 0 (boundaries met) = 0 ∧
      rootsFrom 0 (boundaries met) = 1 := by
  induction pieces with
  | nil => cases hroots
  | cons piece rest ih =>
    rw [boundaries_cons] at hroots hclosed
    cases piece with
    | opening tag =>
      obtain ⟨met, more, rfl, hmet, hinner⟩ := exists_closing Nat.one_pos hclosed
      refine ⟨.opening tag :: met, more, rfl, hmet, ?_⟩
      rw [boundaries_cons]
      exact congrArg (1 + ·) hinner
    | empty tag => exact ⟨[.empty tag], rest, rfl, rfl, rfl⟩
    | silent =>
      obtain ⟨met, more, rfl, hmet, hone⟩ := ih hroots hclosed
      exact ⟨.silent :: met, more, rfl, hmet, hone⟩
    | closing name =>
      have hrest : 0 < rootsFrom 0 (boundaries rest) := by
        simpa [Piece.event?, rootsFrom, Event.isClosed, Event.depthBehind] using hroots
      obtain ⟨met, more, rfl, hmet, hone⟩ := ih hrest hclosed
      refine ⟨.closing name :: met, more, rfl, hmet, ?_⟩
      rw [boundaries_cons]
      simpa [Piece.event?, rootsFrom, Event.isClosed, Event.depthBehind] using hone

end Markup

end Bindery
