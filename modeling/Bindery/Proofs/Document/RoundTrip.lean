import Bindery.Proofs.Document.Boundaries
import Bindery.Proofs.Document.Outline
import Bindery.Proofs.Document.Writable

/-!
# Documents come back from their texts

Whatever way a document is written in, its text is accepted, and the translation unit that is read
is the arena of the trees that were written. Only a document with more elements than nodes can be
numbered is refused.
-/

namespace Bindery

open Markup

namespace Outline

variable {outline : Outline} {opened : List OpenElement}

/-- Adding no trees changes nothing. -/
theorem add_nil (hopened : outline.opened = some opened) : outline.add opened [] = outline := by
  obtain ⟨finished, _, seen⟩ := outline
  obtain rfl := hopened
  cases opened with
  | nil => simp [add, addTo]
  | cons element outer => simp [add, addTo]

/-- Trees may be added one list after the other. -/
theorem add_add (outline : Outline) (opened : List OpenElement) (elements later : List Element) :
    (outline.add opened elements).add (addTo outline.finished elements opened).2 later =
      outline.add opened (elements ++ later) := by
  cases opened with
  | nil => simp [add, addTo]
  | cons element outer => simp [add, addTo]

/-- An element boundary that is passed leads on to the next outline. -/
theorem foldlM_cons_of_ok {next : Outline} {event : Event} (events : List Event)
    (hevent : outline.step event = .ok next) :
    (event :: events).foldlM step outline = events.foldlM step next := by
  rw [List.foldlM_cons, hevent]
  rfl

/-- Element boundaries that are passed lead on to the next outline. -/
theorem foldlM_append_of_ok {next : Outline} {events : List Event} (later : List Event)
    (hevents : events.foldlM step outline = .ok next) :
    (events ++ later).foldlM step outline = later.foldlM step next := by
  rw [List.foldlM_append, hevents]
  rfl

/-- The element boundaries of a spelling add its trees to the innermost open element. -/
theorem foldlM_events (spelling : Spelling) (hopened : outline.opened = some opened) :
    spelling.events.foldlM step outline = .ok (outline.add opened spelling.elements) := by
  induction spelling generalizing outline opened with
  | text gap => exact congrArg Except.ok (add_nil hopened).symm
  | single before name attributes rest ih =>
    have hstep : outline.step (.empty (tagOf name attributes)) =
        .ok (outline.add opened [.node name.text attributes.pairs []]) := by
      simp only [step, hopened, attributes_tagOf, name_tagOf]
      rfl
    rw [Spelling.events, foldlM_cons_of_ok _ hstep, ih rfl, add_add]
    rfl
  | paired before name attributes content rest ihcontent ihrest =>
    let element : OpenElement := ⟨name.text, attributes.pairs, []⟩
    let inside : Outline := { outline with opened := some (element :: opened) }
    have hopen : outline.step (.opened (tagOf name attributes)) = .ok inside := by
      simp only [step, hopened, attributes_tagOf, name_tagOf]
      rfl
    have hcontent : content.events.foldlM step inside =
        .ok (inside.add (element :: opened) content.elements) := ihcontent rfl
    have hclose : (inside.add (element :: opened) content.elements).step .closed =
        .ok (outline.add opened [.node name.text attributes.pairs content.elements]) := rfl
    rw [Spelling.events, foldlM_cons_of_ok _ hopen, foldlM_append_of_ok _ hcontent,
      foldlM_cons_of_ok _ hclose, ihrest rfl, add_add]
    rfl

/-- Behind the document element its trees are finished, and nothing is open. -/
theorem foldlM_document (document : Document) :
    document.spelling.events.foldlM step start = .ok ⟨document.elements, none, true⟩ := by
  cases document with
  | single before name attributes after => rfl
  | paired before name attributes content after =>
    let inside : Outline := ⟨[], some [], true⟩
    have hcontent : content.events.foldlM step inside = .ok (inside.add [] content.elements) :=
      foldlM_events content rfl
    have hopen : start.step (.opened (tagOf name attributes)) = .ok inside := rfl
    rw [Document.spelling, Spelling.events, foldlM_cons_of_ok _ hopen,
      foldlM_append_of_ok _ hcontent]
    rfl

end Outline

namespace TranslationUnit

open Element

/-- The text of a document is read as the arena of its trees, unless there is no room for all its
elements. -/
theorem ofText_text_eq_ite (document : Document) :
    ofText document.text =
      if sizeAll document.elements ≤ Forest.capacity then .ok (arena document.elements)
      else .error .tooLarge := by
  have hfold : document.spelling.events.foldlM Forest.step Forest.empty =
      Outline.toForest ⟨document.elements, none, true⟩ :=
    Outline.foldlM_forest Outline.size_start_le (Outline.foldlM_document document)
  have hsize : Outline.size ⟨document.elements, none, true⟩ = sizeAll document.elements := rfl
  rw [ofText, Document.text, String.toList_ofList, Reading.ofText_chars, Forest.ofReading, hfold,
    Outline.toForest, hsize]
  split
  · exact congrArg Except.ok (ofForest_forest document.elements true)
  · rfl

/-- Where there is room, the text of a document is read as the arena of its trees. -/
theorem ofText_text (document : Document)
    (hsize : sizeAll document.elements ≤ Forest.capacity) :
    ofText document.text = .ok (arena document.elements) := by
  rw [ofText_text_eq_ite, if_pos hsize]

/-- What a tree says of the node at which it stands. -/
theorem Shows.node_eq {unit : TranslationUnit} {n : NodeId} {e : Element} (h : unit.Shows n e) :
    (unit.node n).kind.name = e.name ∧ (unit.node n).attributes = e.attributes ∧
      List.Forall₂ unit.Shows (unit.node n).children e.children := by
  cases h with
  | intro _ hkind hattributes hchildren =>
    exact ⟨by rw [hkind, NodeKind.name_ofName]; rfl, hattributes, hchildren⟩

/-- Reading undoes writing. A list of trees can be written just in case all its elements can. Then,
however it is written, the text is accepted unless it has more elements than a number of 32 bits can
tell apart, and the translation unit is the arena of the trees: these stand at the top in their
order, there is one node for each element, and each node shows an element, with its name, its
attributes and its children in order. -/
theorem ofText_text_eq_arena (elements : List Element) :
    ((∃ document : Document, document.elements = elements) ↔
      ∀ e ∈ subtreesAll elements, e.Writable) ∧
    ∀ document : Document, document.elements = elements →
      ofText document.text =
        (if sizeAll elements ≤ UInt32.size then .ok (arena elements) else .error .tooLarge) ∧
      List.Forall₂ (arena elements).Shows (arena elements).top elements ∧
      (arena elements).size = sizeAll elements ∧
      (∀ n < (arena elements).size, ∃ e ∈ subtreesAll elements, (arena elements).Shows n e) ∧
      ∀ n e, (arena elements).Shows n e → ((arena elements).node n).kind.name = e.name ∧
        ((arena elements).node n).attributes = e.attributes ∧
        List.Forall₂ (arena elements).Shows ((arena elements).node n).children e.children := by
  refine ⟨exists_document_iff, ?_⟩
  rintro document rfl
  exact ⟨ofText_text_eq_ite document, shows_arena document.elements, size_arena document.elements,
    fun n hn => exists_shows_arena hn, fun n e => Shows.node_eq⟩

/-- A text with an element in another one. Both have the same id, which has a `>` in it. -/
def nestedText : String :=
  "<u><a id=\">\"><c id='>'/></a></u>"

/-- The nested text describes one tree, with another one in it. -/
theorem ofText_nestedText : ofText nestedText =
    .ok (arena [.node "a" [("id", ">")] [.node "c" [("id", ">")] []]]) := by
  have hforest : Forest.ofReading (.ofText nestedText.toList) = .ok
      (Outline.forest ⟨[.node "a" [("id", ">")] [.node "c" [("id", ">")] []]], none, true⟩) := by
    decide +kernel
  rw [ofText, hforest]
  exact congrArg Except.ok (ofForest_forest _ true)

end TranslationUnit

end Bindery
