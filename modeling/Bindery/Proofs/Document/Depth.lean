import Bindery.Proofs.Document.Pieces
import Bindery.TranslationUnit.Forest
import Mathlib.Data.List.DropRight

/-!
# How deep the elements of a text are nested

A text is read as the element boundaries among its pieces, up to an end tag that is out of place or
the point where it cannot be read on. Each boundary opens an element, closes one, or does neither.
The depth that a reader counts is the number of elements that are opened and not closed, and never
does an element close where none is open.
-/

namespace Bindery.Markup

variable {before after pieces met more : List Piece} {text rest tail : List Char}
  {opened : List (List Char)} {fault : Option Error}

/-- The element boundary that a piece of markup is. -/
def Piece.event? : Piece → Option Event
  | .opening tag => some (.opened tag)
  | .empty tag => some (.empty tag)
  | .closing _ => some .closed
  | .silent => none

/-- The element boundaries among pieces of markup, in order. -/
def boundaries (pieces : List Piece) : List Event :=
  pieces.filterMap Piece.event?

/-- The number of open elements behind a boundary. -/
def Event.depthBehind (depth : Nat) : Event → Nat
  | .opened _ => depth + 1
  | .empty _ => depth
  | .closed => depth - 1

/-- The number of elements that are opened and not closed, of which `depth` are open before. -/
def depthFrom (depth : Nat) (events : List Event) : Nat :=
  events.foldl Event.depthBehind depth

/-- A boundary that opens an element with content. -/
def Event.isOpened : Event → Bool
  | .opened _ => true
  | _ => false

/-- A boundary is followed by the others at its depth. -/
@[simp]
theorem depthFrom_cons (depth : Nat) (event : Event) (events : List Event) :
    depthFrom depth (event :: events) = depthFrom (event.depthBehind depth) events :=
  rfl

/-- Boundaries are followed by others at their depth. -/
theorem depthFrom_append (depth : Nat) (events later : List Event) :
    depthFrom depth (events ++ later) = depthFrom (depthFrom depth events) later :=
  List.foldl_append

/-- A piece that is an element boundary comes before the boundaries behind it. -/
theorem boundaries_cons (piece : Piece) (pieces : List Piece) :
    boundaries (piece :: pieces) = piece.event?.toList ++ boundaries pieces := by
  cases piece <;> rfl

/-- A boundary that closes an element. -/
def Event.isClosed : Event → Bool
  | .closed => true
  | _ => false

namespace Reading

/-- What is read from pieces of markup that are followed by nothing more, or by what cannot be read.
An end tag that is out of place ends the reading early. -/
def ofPieces (fault : Option Error) (opened : List (List Char)) : List Piece → Reading
  | [] => ⟨[], fault⟩
  | .silent :: rest => ofPieces fault opened rest
  | .empty tag :: rest => (ofPieces fault opened rest).after (.empty tag)
  | .opening tag :: rest => (ofPieces fault (tag.name :: opened) rest).after (.opened tag)
  | .closing name :: rest =>
    match opened with
    | [] => ⟨[], some (.nesting (.unmatchedEnd (String.ofList name)))⟩
    | expected :: outer =>
      if name = expected then (ofPieces fault outer rest).after .closed
      else ⟨[], some (.nesting (.mismatchedEnd (String.ofList expected) (String.ofList name)))⟩

/-- A piece of markup is read before what follows it. -/
theorem ofPiece_eq_ofPieces {piece : Piece}
    (h : ∀ opened, ofTextFrom opened tail = ofPieces fault opened pieces) :
    ofPiece opened (.ok (piece, tail)) = ofPieces fault opened (piece :: pieces) := by
  cases piece with
  | opening tag => rw [ofPiece, h, ofPieces]
  | empty tag => rw [ofPiece, h, ofPieces]
  | silent => rw [ofPiece, h, ofPieces]
  | closing name => cases opened <;> simp only [ofPiece, h, ofPieces]

/-- A text that falls into pieces is read as these, and then as what follows it. -/
theorem ofTextFrom_scan (hscan : Scan text pieces rest)
    (htail : ∀ opened, ofTextFrom opened tail = ⟨[], fault⟩) (opened : List (List Char)) :
    ofTextFrom opened (text ++ tail) = ofPieces fault opened pieces := by
  induction hscan generalizing opened with
  | @gap gap hgap => rw [ofTextFrom_gap ⟨gap, hgap⟩, htail, ofPieces]
  | @piece gap inside later rest piece pieces hgap hinside hlater ih =>
    rw [List.append_assoc, ofTextFrom_gap ⟨gap, hgap⟩, List.cons_append, List.append_assoc,
      ofTextFrom_cons, hinside.readPiece_append, ofPiece_eq_ofPieces ih]

/-- Every text is read as some pieces of markup, whatever elements are open. -/
theorem exists_pieces (text : List Char) :
    ∃ pieces fault, ∀ opened, ofTextFrom opened text = ofPieces fault opened pieces := by
  induction hlength : text.length using Nat.strongRecOn generalizing text with
  | ind length ih =>
    have hfrom (opened : List (List Char)) :
        ofTextFrom opened text = ofTextFrom opened (text.dropWhile (· != '<')) :=
      ofTextFrom_congr (by rw [List.dropWhile_idempotent])
    cases hmark : text.dropWhile (· != '<') with
    | nil =>
      refine ⟨[], none, fun opened => ?_⟩
      rw [hfrom, hmark]
      simp [ofTextFrom, ofPieces]
    | cons first rest =>
      obtain rfl : first = '<' := by
        have hhead := List.head?_dropWhile_not (· != '<') text
        rw [hmark] at hhead
        simpa using hhead
      cases hpiece : readPiece rest with
      | error cause =>
        refine ⟨[], some cause, fun opened => ?_⟩
        rw [hfrom, hmark, ofTextFrom_cons, hpiece, ofPiece, ofPieces]
      | ok found =>
        have hshorter : found.2.length < length := by
          have hrest := length_dropWhile_le (· != '<') text
          have hleft := length_le_of_readPiece hpiece
          rw [hmark, List.length_cons] at hrest
          omega
        obtain ⟨pieces, fault, hpieces⟩ := ih _ hshorter found.2 rfl
        refine ⟨found.1 :: pieces, fault, fun opened => ?_⟩
        rw [hfrom, hmark, ofTextFrom_cons, hpiece, ofPiece_eq_ofPieces hpieces]

/-- Pieces that are read without a fault, and with others behind them, are read as their element
boundaries. -/
theorem ofPieces_eq_of_fault_eq_none (h : (ofPieces none opened (met ++ more)).fault = none)
    (fault : Option Error) : ofPieces fault opened met = ⟨boundaries met, fault⟩ := by
  induction met generalizing opened with
  | nil => rfl
  | cons piece rest ih =>
    rw [List.cons_append] at h
    cases piece with
    | opening tag =>
      rw [ofPieces, ih h]
      rfl
    | empty tag =>
      rw [ofPieces, ih h]
      rfl
    | silent =>
      rw [ofPieces, ih h]
      rfl
    | closing name =>
      cases opened with
      | nil => cases h
      | cons expected outer =>
        rw [ofPieces] at h ⊢
        split at h
        next hname =>
          rw [if_pos hname, ih h]
          rfl
        · cases h

/-- Pieces that are read without a fault close no element that they or others before them have not
opened. -/
theorem countP_boundaries (h : (ofPieces none opened pieces).fault = none) :
    (boundaries pieces).countP Event.isClosed + depthFrom opened.length (boundaries pieces) =
      opened.length + (boundaries pieces).countP Event.isOpened := by
  induction pieces generalizing opened with
  | nil => simp [boundaries, depthFrom]
  | cons piece rest ih =>
    rw [boundaries_cons]
    cases piece with
    | opening tag =>
      have hrest := ih h
      simp [Piece.event?, Event.depthBehind, Event.isOpened, Event.isClosed,
        List.countP_cons] at hrest ⊢
      omega
    | empty tag =>
      have hrest := ih h
      simpa [Piece.event?, Event.depthBehind, Event.isOpened, Event.isClosed] using hrest
    | silent => exact ih h
    | closing name =>
      cases opened with
      | nil => cases h
      | cons expected outer =>
        rw [ofPieces] at h
        split at h
        · have hrest := ih h
          simp [Piece.event?, Event.depthBehind, Event.isOpened, Event.isClosed,
            List.countP_cons] at hrest ⊢
          omega
        · cases h

/-- Where an element is closed, one is open. -/
theorem depthFrom_pos_of_closed {before after : List Event}
    (h : (ofPieces fault opened pieces).events = before ++ .closed :: after) :
    0 < depthFrom opened.length before := by
  induction pieces generalizing opened before with
  | nil => simp [ofPieces] at h
  | cons piece rest ih =>
    -- A piece that is a boundary itself is either the closing one, or the first of those before it.
    have hstep (outer : List (List Char)) (event : Event)
        (hopen : event = .closed → 0 < opened.length)
        (hdepth : event.depthBehind opened.length = outer.length)
        (hevents : event :: (ofPieces fault outer rest).events = before ++ .closed :: after) :
        0 < depthFrom opened.length before := by
      cases before with
      | nil => exact hopen (List.cons.inj hevents).1
      | cons first before =>
        obtain ⟨rfl, hlater⟩ := List.cons.inj hevents
        rw [depthFrom_cons, hdepth]
        exact ih hlater
    cases piece with
    | opening tag => exact hstep (tag.name :: opened) (.opened tag) nofun rfl h
    | empty tag => exact hstep opened (.empty tag) nofun rfl h
    | silent => exact ih h
    | closing name =>
      cases opened with
      | nil => simp [ofPieces] at h
      | cons expected outer =>
        rw [ofPieces] at h
        split at h
        · exact hstep outer .closed (fun _ => Nat.succ_pos _) rfl h
        · simp at h

end Reading

end Bindery.Markup

namespace Bindery.Forest

open Markup

variable {forest forest' : Forest} {event : Event} {events : List Event}

/-- What it means that an element begins: the document element is only noted, and any other one gets
a node. -/
theorem enter_cases {tag : Tag} (h : forest.enter tag = .ok forest') :
    forest.depth = 0 ∧ forest' = { forest with seen := true } ∨
      0 < forest.depth ∧ ∃ kind attributes, forest' = forest.add kind attributes := by
  unfold enter at h
  split at h
  next hdepth => exact .inl ⟨hdepth, (Except.ok.inj h).symm⟩
  next depth hdepth =>
    cases hattributes : tag.attributes with
    | error cause => rw [hattributes] at h; cases h
    | ok attributes =>
      rw [hattributes] at h
      change (if forest.nodes.size < capacity then _ else _) = _ at h
      split at h
      · exact .inr ⟨hdepth ▸ Nat.succ_pos depth, _, attributes, (Except.ok.inj h).symm⟩
      · cases h

/-- An element that is opened begins first, and then is left open. -/
theorem exists_enter_of_step {tag : Tag} (h : forest.step (.opened tag) = .ok forest') :
    ∃ entered, forest.enter tag = .ok entered ∧ forest' = entered.descend := by
  change (forest.enter tag).map descend = .ok forest' at h
  cases hentered : forest.enter tag with
  | error cause => rw [hentered] at h; cases h
  | ok entered =>
    rw [hentered] at h
    exact ⟨entered, rfl, (Except.ok.inj h).symm⟩

/-- An element that begins does not change the depth yet. -/
theorem depth_enter {tag : Tag} (h : forest.enter tag = .ok forest') :
    forest'.depth = forest.depth := by
  obtain ⟨-, rfl⟩ | ⟨-, kind, attributes, rfl⟩ := enter_cases h
  · rfl
  · unfold add
    split <;> rfl

/-- A boundary changes the depth of a forest by what it opens or closes. -/
theorem depth_step (h : forest.step event = .ok forest') :
    forest'.depth = event.depthBehind forest.depth := by
  cases event with
  | empty tag => exact depth_enter h
  | opened tag =>
    obtain ⟨entered, hentered, rfl⟩ := exists_enter_of_step h
    have hdepth : entered.descend.depth = entered.depth + 1 := by
      unfold descend
      split <;> simp_all
    rw [hdepth, depth_enter hentered, Event.depthBehind]
  | closed =>
    cases h
    rfl

/-- What is read from boundaries is read from the first of them, and then from the others. -/
theorem exists_of_foldlM_append {later : List Event} {final : Forest}
    (h : (events ++ later).foldlM step forest = .ok final) :
    ∃ reached, events.foldlM step forest = .ok reached ∧ later.foldlM step reached = .ok final := by
  rw [List.foldlM_append] at h
  cases hreached : events.foldlM step forest with
  | error cause => rw [hreached] at h; cases h
  | ok reached =>
    rw [hreached] at h
    exact ⟨reached, rfl, h⟩

/-- The depth of a forest is that of the boundaries that it was read from. -/
theorem depth_foldlM (h : events.foldlM step forest = .ok forest') :
    forest'.depth = depthFrom forest.depth events := by
  induction events generalizing forest with
  | nil => cases h; rfl
  | cons event events ih =>
    rw [List.foldlM_cons] at h
    cases hstep : forest.step event with
    | error cause => rw [hstep] at h; cases h
    | ok next =>
      rw [hstep] at h
      rw [depthFrom_cons, ← depth_step hstep]
      exact ih h

end Bindery.Forest
