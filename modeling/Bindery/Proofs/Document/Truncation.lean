import Bindery.Proofs.Document.Depth
import Bindery.Proofs.Document.RoundTrip

/-!
# Documents that are cut short

A document that ends with its only root element cannot be cut short without notice. What a text
lacks shows in where it ends: before any element there is no document, inside a piece of markup that
piece is at fault, and anywhere else some elements are still open, of which the error tells the
number.
-/

namespace Bindery

namespace Markup

variable {depth : Nat} {events later : List Event}

/-- The number of elements that begin where no other is open. Before the first boundary, `depth`
elements are open. -/
def rootsFrom (depth : Nat) : List Event → Nat
  | [] => 0
  | event :: rest =>
    (if depth = 0 ∧ event.isClosed = false then 1 else 0) +
      rootsFrom (event.depthBehind depth) rest

/-- The document has one element at depth zero, and ends with the piece of markup by which this
element ends: its only tag, or its end tag. -/
def EndsWithRoot (document : List Char) : Prop :=
  ∃ before last, Scan document (before ++ [last]) [] ∧
    rootsFrom 0 (boundaries (before ++ [last])) = 1 ∧
    ((∃ tag, last = .empty tag) ∧ depthFrom 0 (boundaries before) = 0 ∨
      (∃ name, last = .closing name) ∧ depthFrom 0 (boundaries before) = 1)

/-- Roots are counted one list of boundaries after the other. -/
theorem rootsFrom_append (depth : Nat) (events later : List Event) :
    rootsFrom depth (events ++ later) =
      rootsFrom depth events + rootsFrom (depthFrom depth events) later := by
  induction events generalizing depth with
  | nil => simp [rootsFrom, depthFrom]
  | cons event rest ih =>
    rw [List.cons_append, rootsFrom, ih, rootsFrom, depthFrom_cons, Nat.add_assoc]

/-- Where only end tags come, no element is open behind them. -/
theorem depthFrom_zero_of_isClosed (h : ∀ event ∈ events, event.isClosed = true) :
    depthFrom 0 events = 0 := by
  induction events with
  | nil => rfl
  | cons event rest ih =>
    rw [List.forall_mem_cons] at h
    cases event with
    | closed => exact ih h.2
    | opened tag => cases h.1
    | empty tag => cases h.1

/-- Where any element begins, the first that does is a root. -/
theorem rootsFrom_pos (h : ∃ event ∈ events, event.isClosed = false) : 0 < rootsFrom 0 events := by
  induction events with
  | nil => simp at h
  | cons event rest ih =>
    cases event with
    | opened tag => exact Nat.add_pos_left Nat.one_pos _
    | empty tag => exact Nat.add_pos_left Nat.one_pos _
    | closed =>
      have hrest : ∃ event ∈ rest, event.isClosed = false := by simpa [Event.isClosed] using h
      simpa [rootsFrom, Event.isClosed, Event.depthBehind] using ih hrest

/-- Between the beginning of the only root and the boundary by which it ends, an element is open. -/
theorem depthFrom_pos_of_rootsFrom {start behind : List Event} {last : Event}
    (hroots : rootsFrom 0 (start ++ (behind ++ [last])) = 1)
    (hend : last.isClosed = true → depthFrom 0 (start ++ behind) = 1)
    (hbegins : ∃ event ∈ start, event.isClosed = false) : 0 < depthFrom 0 start := by
  by_contra hzero
  have hdepth : depthFrom 0 start = 0 := by omega
  rw [rootsFrom_append, hdepth] at hroots
  have hfirst := rootsFrom_pos hbegins
  -- With nothing open behind `start`, another root begins before `last`, or with it.
  have hsecond : ∃ event ∈ behind ++ [last], event.isClosed = false := by
    by_contra hnone
    have hclosed : ∀ event ∈ behind ++ [last], event.isClosed = true := fun event hmem =>
      Bool.of_not_eq_false fun hopen => hnone ⟨event, hmem, hopen⟩
    rw [List.forall_mem_append, List.forall_mem_singleton] at hclosed
    have hopen := hend hclosed.2
    rw [depthFrom_append, hdepth, depthFrom_zero_of_isClosed hclosed.1] at hopen
    cases hopen
  have hlater := rootsFrom_pos hsecond
  omega

/-- Behind the beginning of the only root, an element is open until the document ends. -/
theorem depthFrom_boundaries_pos {met before later : List Piece} {last : Piece}
    (hroots : rootsFrom 0 (boundaries (before ++ [last])) = 1)
    (hend : (∃ tag, last = .empty tag) ∧ depthFrom 0 (boundaries before) = 0 ∨
      (∃ name, last = .closing name) ∧ depthFrom 0 (boundaries before) = 1)
    (hpieces : before ++ [last] = met ++ (later ++ [last]))
    (hbegins : ∃ event ∈ boundaries met, event.isClosed = false) :
    0 < depthFrom 0 (boundaries met) := by
  rw [hpieces, boundaries, List.filterMap_append, List.filterMap_append] at hroots
  rw [← List.append_assoc] at hpieces
  rcases hend with ⟨⟨tag, rfl⟩, -⟩ | ⟨⟨name, rfl⟩, hinside⟩
  · refine depthFrom_pos_of_rootsFrom hroots (fun hclosed => ?_) hbegins
    cases hclosed
  · refine depthFrom_pos_of_rootsFrom hroots (fun _ => ?_) hbegins
    rwa [List.append_cancel_right hpieces, boundaries, List.filterMap_append] at hinside

/-- An accepted document begins with no end tag. -/
theorem exists_not_isClosed {pieces more : List Piece}
    (h : (Reading.ofPieces none [] (pieces ++ more)).fault = none)
    (hsome : boundaries pieces ≠ []) : ∃ event ∈ boundaries pieces, event.isClosed = false := by
  have hread : (Reading.ofPieces none [] pieces).events = boundaries pieces := by
    rw [Reading.ofPieces_eq_of_fault_eq_none h]
  cases hevents : boundaries pieces with
  | nil => exact absurd hevents hsome
  | cons first others =>
    refine ⟨first, List.mem_cons_self, ?_⟩
    cases first with
    | opened tag => rfl
    | empty tag => rfl
    | closed =>
      have hopen : 0 < depthFrom 0 [] := Reading.depthFrom_pos_of_closed (hread.trans hevents)
      cases hopen

namespace Reading

variable {text rest part : List Char} {pieces : List Piece}

/-- A text that falls into pieces of markup is read as these. -/
theorem ofText_of_scan (h : Scan text pieces rest) : ofText text = ofPieces none [] pieces := by
  have hnothing (opened : List (List Char)) : ofTextFrom opened [] = ⟨[], none⟩ := by
    simp [ofTextFrom]
  rw [ofText, ofTextFrom_withoutMark, ← List.append_nil text, ofTextFrom_scan h hnothing]

/-- A text that ends with what is no piece of markup is read as the pieces before it. -/
theorem ofText_of_cut {cause : Error} (h : Scan text pieces rest)
    (hcut : readPiece part = .error cause) :
    ofText (text ++ '<' :: part) = ofPieces (some cause) [] pieces := by
  have hfault (opened : List (List Char)) :
      ofTextFrom opened ('<' :: part) = ⟨[], some cause⟩ := by
    rw [ofTextFrom_cons, hcut, ofPiece]
  rw [ofText, ofTextFrom_withoutMark, ofTextFrom_scan h hfault]

end Reading

end Markup

namespace Forest

open Markup

variable {forest : Forest} {events : List Event}

/-- Pieces of markup that an accepted document begins with are read as their boundaries, whatever
fault is behind them, and make a forest. -/
theorem exists_foldlM_of_ofReading {met more : List Piece}
    (h : ofReading (.ofPieces none [] (met ++ more)) = .ok forest) :
    (∀ fault, Reading.ofPieces fault [] met = ⟨boundaries met, fault⟩) ∧
      ∃ reached, (boundaries met).foldlM step empty = .ok reached ∧
        reached.depth = depthFrom 0 (boundaries met) := by
  obtain ⟨hfold, hfault, -⟩ := foldlM_of_ofReading h
  refine ⟨Reading.ofPieces_eq_of_fault_eq_none hfault, ?_⟩
  have hwhole : (Reading.ofPieces none [] (met ++ more)).events = boundaries (met ++ more) := by
    have hread : (Reading.ofPieces none [] ((met ++ more) ++ [])).fault = none := by
      rwa [List.append_nil]
    rw [Reading.ofPieces_eq_of_fault_eq_none hread]
  rw [hwhole, boundaries, List.filterMap_append] at hfold
  obtain ⟨reached, hreached, -⟩ := exists_of_foldlM_append hfold
  exact ⟨reached, hreached, depth_foldlM hreached⟩

/-- What elements that can be read come to: a fault behind them, elements that are left open,
nothing at all, or a forest. -/
theorem ofReading_eq (h : events.foldlM step empty = .ok forest) (fault : Option Markup.Error) :
    ofReading ⟨events, fault⟩ =
      match fault with
      | some cause => .error (.markup cause)
      | none =>
        if 0 < forest.depth then .error (.truncated forest.depth)
        else if forest.seen then .ok forest else .error .empty := by
  rw [ofReading, h]
  rfl

end Forest

namespace TranslationUnit

open Markup

/-- A text that ends inside markup of an accepted document is not well-formed. -/
theorem ofText_of_inside {document start : String} {unit : TranslationUnit} {pieces : List Piece}
    {rest : List Char} (haccepted : ofText document = .ok unit)
    (hscan : Scan document.toList pieces rest) (hinside : Inside start.toList document.toList) :
    ∃ cause, ofText start = .error (.markup cause) := by
  obtain ⟨forest, hforest, -⟩ := exists_forest haccepted
  obtain ⟨front, met, part, inside, piece, ⟨behind, hmet⟩, hwhole, hpart, hne, hstart, hbegins⟩ :=
    hinside
  obtain ⟨cause, hcut⟩ := hwhole.readPiece_of_prefix hpart hne
  obtain ⟨behind', hbehind⟩ := (List.prefix_append _ _).trans hbegins
  obtain ⟨later, hpieces, -⟩ := hmet.exists_later (hbehind ▸ hscan)
  rw [Reading.ofText_of_scan hscan, hpieces] at hforest
  obtain ⟨hread, reached, hfold, -⟩ := Forest.exists_foldlM_of_ofReading hforest
  refine ⟨cause, ?_⟩
  rw [ofText, hstart, Reading.ofText_of_cut hmet hcut, hread, Forest.ofReading_eq hfold]
  rfl

/-- A document that ends with its only root element cannot be cut short without notice. Wherever it
is cut, that is outside markup or inside a piece of it. Cut before any element, it is empty. Cut
behind the tag that the root begins with, it ends inside as many elements as are opened and not
closed, of which there is at least one. Cut inside markup, it is not well-formed. -/
theorem ofText_of_prefix {document start : String} {unit : TranslationUnit}
    (haccepted : ofText document = .ok unit) (hroot : EndsWithRoot document.toList)
    (hbegins : start.toList <+: document.toList) (hproper : start ≠ document) :
    ((∃ met, Outside start.toList met) ∨ Inside start.toList document.toList) ∧
      (∀ met, Outside start.toList met → boundaries met = [] → ofText start = .error .empty) ∧
      (∀ met, Outside start.toList met → boundaries met ≠ [] →
        ∃ unclosed, 1 ≤ unclosed ∧ ofText start = .error (.truncated unclosed) ∧
          (boundaries met).countP Event.isClosed + unclosed =
            (boundaries met).countP Event.isOpened) ∧
      (Inside start.toList document.toList → ∃ cause, ofText start = .error (.markup cause)) := by
  obtain ⟨before, last, hscan, hroots, hend⟩ := hroot
  obtain ⟨forest, hforest, -⟩ := exists_forest haccepted
  rw [Reading.ofText_of_scan hscan] at hforest
  obtain ⟨more, hmore⟩ := hbegins
  have hmissing : more ≠ [] := by
    rintro rfl
    exact hproper (String.toList_inj.mp ((List.append_nil _).symm.trans hmore))
  have hlast {met : List Piece} {behind : List Char} (hmet : Scan start.toList met behind) :
      ∃ later, before ++ [last] = met ++ (later ++ [last]) :=
    hmet.exists_later_of_ne_nil (hmore ▸ hscan) hmissing
  refine ⟨hscan.outside_or_inside ⟨more, hmore⟩, ?_, ?_, ofText_of_inside haccepted hscan⟩
  · rintro met ⟨behind, hmet⟩ hnone
    obtain ⟨later, hpieces⟩ := hlast hmet
    rw [hpieces] at hforest
    obtain ⟨hread, -⟩ := Forest.exists_foldlM_of_ofReading hforest
    rw [ofText, Reading.ofText_of_scan hmet, hread, hnone]
    rfl
  · rintro met ⟨behind, hmet⟩ hsome
    obtain ⟨later, hpieces⟩ := hlast hmet
    rw [hpieces] at hforest
    obtain ⟨hread, reached, hfold, hdepth⟩ := Forest.exists_foldlM_of_ofReading hforest
    obtain ⟨-, hfault, -⟩ := Forest.foldlM_of_ofReading hforest
    have hopen : 0 < reached.depth := by
      rw [hdepth]
      exact depthFrom_boundaries_pos hroots hend hpieces (exists_not_isClosed hfault hsome)
    refine ⟨reached.depth, hopen, ?_, ?_⟩
    · rw [ofText, Reading.ofText_of_scan hmet, hread, Forest.ofReading_eq hfold, if_pos hopen]
      rfl
    · have hmetFault : (Reading.ofPieces none [] met).fault = none := by rw [hread]
      have hcount := Reading.countP_boundaries hmetFault
      rw [List.length_nil, ← hdepth] at hcount
      omega

/-- Behind its innermost element, the nested text is cut inside two elements. -/
theorem ofText_prefix_nestedText :
    EndsWithRoot nestedText.toList ∧
      ofText "<u><a id=\">\"><c id='>'/>" = .error (.truncated 2) := by
  have hend : Scan [] [] [] := .gap List.not_mem_nil
  have hends : Scan "</a></u>".toList [.closing ['a'], .closing ['u']] [] :=
    @Scan.piece [] "/a>".toList "</u>".toList [] _ _ List.not_mem_nil (by decide)
      (@Scan.piece [] "/u>".toList [] [] _ _ List.not_mem_nil (by decide) hend)
  have htags {rest behind : List Char} {pieces : List Piece} (h : Scan rest pieces behind) :
      Scan ("<u><a id=\">\"><c id='>'/>".toList ++ rest) (.opening ⟨['u']⟩ ::
        .opening ⟨"a id=\">\"".toList⟩ :: .empty ⟨"c id='>'".toList⟩ :: pieces) behind :=
    @Scan.piece [] "u>".toList _ behind _ _ List.not_mem_nil (by decide)
      (@Scan.piece [] "a id=\">\">".toList _ behind _ _ List.not_mem_nil (by decide)
        (@Scan.piece [] "c id='>'/>".toList rest behind _ _ List.not_mem_nil (by decide) h))
  have hroot : EndsWithRoot nestedText.toList :=
    ⟨[_, _, _, _], _, htags hends, by decide, .inr ⟨⟨_, rfl⟩, by decide⟩⟩
  have hbegins : "<u><a id=\">\"><c id='>'/>".toList <+: nestedText.toList :=
    ⟨"</a></u>".toList, by decide⟩
  obtain ⟨-, -, htruncated, -⟩ := ofText_of_prefix ofText_nestedText hroot hbegins (by decide)
  obtain ⟨unclosed, -, hcut, hcount⟩ := htruncated _ ⟨[], htags hend⟩ (by decide)
  obtain rfl : unclosed = 2 := (Nat.zero_add unclosed).symm.trans hcount
  exact ⟨hroot, hcut⟩

end TranslationUnit

end Bindery
