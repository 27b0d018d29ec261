import Bindery.Proofs.Document.Roots
import Bindery.Proofs.Scope.Ids

/-!
# Several documents in one text

A text with several root elements is accepted like one with a single root. It falls into as many
documents, each of which is accepted on its own, and is read as if the trees of all of them stood
below one root, if there is room for the elements of all of them. An id that several of the
documents use leads to the first of them.
-/

namespace Bindery

open Markup

variable {events : List Event} {pieces met more : List Piece}

namespace Forest

variable {forest forest' : Forest} {event : Event}

/-- A boundary makes known that there is a root if it begins one. -/
theorem seen_step (h : forest.step event = .ok forest') :
    forest'.seen = true ↔ forest.seen = true ∨ forest.depth = 0 ∧ event.isClosed = false := by
  have henter {tag : Tag} {entered : Forest} (hentered : forest.enter tag = .ok entered) :
      entered.seen = true ↔ forest.seen = true ∨ forest.depth = 0 := by
    obtain ⟨hdepth, rfl⟩ | ⟨hdepth, kind, attributes, rfl⟩ := enter_cases hentered
    · simp [hdepth]
    · have hadd : (forest.add kind attributes).seen = forest.seen := by
        unfold add
        split <;> rfl
      simp [hadd, Nat.ne_of_gt hdepth]
  cases event with
  | empty tag => simpa [Event.isClosed] using henter h
  | opened tag =>
    obtain ⟨entered, hentered, rfl⟩ := exists_enter_of_step h
    have hdescend : entered.descend.seen = entered.seen := by
      unfold descend
      split <;> rfl
    simpa [hdescend, Event.isClosed] using henter hentered
  | closed =>
    cases h
    simp [Event.isClosed]

/-- Boundaries make known that there is a root if one is among them. -/
theorem seen_foldlM (h : events.foldlM step forest = .ok forest') :
    forest'.seen = true ↔ forest.seen = true ∨ 0 < rootsFrom forest.depth events := by
  induction events generalizing forest with
  | nil =>
    cases h
    simp [rootsFrom]
  | cons event events ih =>
    rw [List.foldlM_cons] at h
    cases hstep : forest.step event with
    | error cause => rw [hstep] at h; cases h
    | ok next =>
      rw [hstep] at h
      rw [ih h, seen_step hstep, depth_step hstep, rootsFrom]
      split
      next hroot =>
        have hpos : 0 < 1 + rootsFrom (event.depthBehind forest.depth) events :=
          Nat.add_pos_left Nat.one_pos _
        exact iff_of_true (.inl (.inr hroot)) (.inr hpos)
      next hroot => rw [or_iff_left hroot, Nat.zero_add]

/-- A forest is read only where there is a root. -/
theorem seen_of_ofReading {reading : Reading} (h : ofReading reading = .ok forest) :
    forest.seen = true := by
  obtain ⟨hfold, hfault, hdepth⟩ := foldlM_of_ofReading h
  obtain ⟨events, fault⟩ := reading
  obtain rfl := hfault
  rw [ofReading_eq hfold, hdepth] at h
  change (if forest.seen then _ else _) = _ at h
  split at h
  next hseen => exact hseen
  · cases h

end Forest

namespace Outline

open Element

variable {outline reached : Outline} {elements : List Element}

/-- An outline whose finished trees come behind those of other documents. -/
def behind (elements : List Element) (outline : Outline) : Outline :=
  { outline with finished := elements ++ outline.finished, seen := true }

/-- Trees are added behind those of other documents. -/
theorem add_behind (opened : List OpenElement) (later : List Element) :
    (outline.behind elements).add opened later = (outline.add opened later).behind elements := by
  cases opened with
  | nil => simp [add, addTo, behind]
  | cons element outer => rfl

/-- A boundary is passed as if nothing came before. -/
theorem step_behind (event : Event) :
    (outline.behind elements).step event = (outline.step event).map (behind elements) := by
  cases hopened : outline.opened with
  | none =>
    cases event <;> simp [step, hopened, Except.map, behind]
  | some opened =>
    have hbehind : (outline.behind elements).opened = some opened := hopened
    cases event with
    | empty tag =>
      simp only [step, hopened, hbehind]
      cases tag.attributes with
      | error cause => rfl
      | ok attributes => exact congrArg Except.ok (add_behind opened _)
    | opened tag =>
      simp only [step, hopened, hbehind]
      cases tag.attributes with
      | error cause => rfl
      | ok attributes => rfl
    | closed =>
      cases opened with
      | nil => simp [step, hopened, Except.map, behind]
      | cons element outer =>
        simp only [step, hopened, hbehind]
        exact congrArg Except.ok (add_behind outer _)

/-- Boundaries are passed as if nothing came before. -/
theorem foldlM_behind (outline : Outline) (events : List Event) :
    events.foldlM step (outline.behind elements) =
      (events.foldlM step outline).map (behind elements) := by
  induction events generalizing outline with
  | nil => rfl
  | cons event events ih =>
    rw [List.foldlM_cons, List.foldlM_cons, step_behind]
    cases outline.step event with
    | error cause => rfl
    | ok next => exact ih next

/-- Trees of other documents add their elements. -/
theorem size_behind (elements : List Element) (outline : Outline) :
    (outline.behind elements).size = sizeAll elements + outline.size := by
  have hcount (opened : List OpenElement) : count (elements ++ outline.finished) opened =
      sizeAll elements + count outline.finished opened := by
    induction opened with
    | nil => exact sizeAll_append elements outline.finished
    | cons element outer ih => rw [count, count, ih, Nat.add_assoc, Nat.add_assoc, Nat.add_assoc]
  exact hcount _

/-- A forest is read from the beginning as an outline is, if there is room. -/
theorem foldlM_empty (h : events.foldlM step start = .ok reached)
    (hsize : reached.size ≤ Forest.capacity) :
    events.foldlM Forest.step Forest.empty = .ok reached.forest :=
  (foldlM_forest size_start_le h).trans (toForest_of_le hsize)

/-- Boundaries that leave nothing open make finished trees, and tell whether there is a root. -/
theorem exists_finished (h : events.foldlM step start = .ok reached)
    (hsize : reached.size ≤ Forest.capacity) (hclosed : depthFrom 0 events = 0) :
    ∃ elements, reached = ⟨elements, none, decide (0 < rootsFrom 0 events)⟩ := by
  have hforest := foldlM_empty h hsize
  have hdepth := Forest.depth_foldlM hforest
  have hseen := Forest.seen_foldlM hforest
  obtain ⟨elements, opened, seen⟩ := reached
  cases opened with
  | none =>
    obtain rfl : seen = decide (0 < rootsFrom 0 events) :=
      Bool.eq_iff_iff.mpr (by simpa [forest, Forest.empty] using hseen)
    exact ⟨elements, rfl⟩
  | some opened => exact absurd (hdepth.trans hclosed) (Nat.succ_ne_zero _)

/-- Finished trees are read on from as if nothing came before. -/
theorem foldlM_finished (elements : List Element) (events : List Event) :
    events.foldlM step ⟨elements, none, true⟩ =
      (events.foldlM step start).map (behind elements) := by
  rw [← foldlM_behind, behind, start, List.append_nil]

/-- Where nothing is open and roots are on both sides, the trees are those of the one side and then
those of the other. -/
theorem exists_of_foldlM_append {later : List Event}
    (h : (events ++ later).foldlM step start = .ok ⟨elements, none, true⟩)
    (hsize : sizeAll elements ≤ Forest.capacity) (hclosed : depthFrom 0 events = 0)
    (hlater : depthFrom 0 later = 0)
    (hroots : 0 < rootsFrom 0 events) (hmore : 0 < rootsFrom 0 later) :
    ∃ before after, elements = before ++ after ∧
      events.foldlM step start = .ok ⟨before, none, true⟩ ∧
      later.foldlM step start = .ok ⟨after, none, true⟩ := by
  rw [List.foldlM_append] at h
  cases hreached : events.foldlM step start with
  | error cause => rw [hreached] at h; cases h
  | ok reached =>
    rw [hreached] at h
    have hreachedSize := Nat.le_trans (size_le_of_foldlM h) hsize
    obtain ⟨before, rfl⟩ := exists_finished hreached hreachedSize hclosed
    rw [decide_eq_true hroots] at h
    change later.foldlM step ⟨before, none, true⟩ = _ at h
    rw [foldlM_finished] at h
    cases hlast : later.foldlM step start with
    | error cause => rw [hlast] at h; cases h
    | ok last =>
      rw [hlast] at h
      have hboth : last.behind before = ⟨elements, none, true⟩ := Except.ok.inj h
      have hlastSize : last.size ≤ Forest.capacity :=
        calc last.size ≤ (last.behind before).size := size_behind before last ▸ Nat.le_add_left _ _
          _ = sizeAll elements := congrArg size hboth
          _ ≤ Forest.capacity := hsize
      obtain ⟨after, rfl⟩ := exists_finished hlast hlastSize hlater
      rw [decide_eq_true hmore, decide_eq_true hroots]
      exact ⟨before, after, (congrArg Outline.finished hboth).symm, rfl, rfl⟩

end Outline

/-- The pieces of markup that an accepted text is made of, and the trees below its roots. -/
structure Describes (text : List Char) (pieces : List Piece) (elements : List Element) : Prop where
  /-- The text falls into the pieces. -/
  scan : ∃ rest, Scan text pieces rest
  /-- All of them are read. -/
  read : Reading.ofPieces none [] pieces = ⟨boundaries pieces, none⟩
  /-- They make the trees, and at least one root. -/
  made : (boundaries pieces).foldlM Outline.step Outline.start = .ok ⟨elements, none, true⟩
  /-- There is room for all elements. -/
  fits : Element.sizeAll elements ≤ Forest.capacity

namespace Describes

open Element

variable {text later : List Char} {elements elements' : List Element}

/-- An accepted text is read as the forest of its trees. -/
theorem foldlM_eq (h : Describes text pieces elements) :
    (boundaries pieces).foldlM Forest.step Forest.empty =
      .ok (Outline.forest ⟨elements, none, true⟩) :=
  Outline.foldlM_empty h.made h.fits

/-- An accepted text leaves nothing open. -/
theorem depthFrom_eq (h : Describes text pieces elements) :
    depthFrom 0 (boundaries pieces) = 0 :=
  (Forest.depth_foldlM h.foldlM_eq).symm

/-- An accepted text has a root. -/
theorem rootsFrom_pos (h : Describes text pieces elements) :
    0 < rootsFrom 0 (boundaries pieces) := by
  obtain ⟨_, hfinished⟩ := Outline.exists_finished h.made h.fits h.depthFrom_eq
  exact of_decide_eq_true (congrArg Outline.seen hfinished).symm

/-- One text behind another describes the trees of both, if there is room for them. -/
theorem append (h : Describes text pieces elements) (hlater : Describes later more elements')
    (hfits : sizeAll (elements ++ elements') ≤ Forest.capacity) :
    Describes (text ++ later) (pieces ++ more) (elements ++ elements') := by
  obtain ⟨_, hscan⟩ := h.scan
  obtain ⟨_, hlaterScan⟩ := hlater.scan
  refine ⟨hscan.append hlaterScan, ?_, ?_, hfits⟩
  · rw [Reading.ofPieces_append (congrArg Reading.fault h.read) h.depthFrom_eq, hlater.read,
      boundaries_append]
  · rw [boundaries_append, Outline.foldlM_append_of_ok _ h.made, Outline.foldlM_finished,
      hlater.made]
    rfl

/-- Where nothing is open and roots are on both sides, an accepted text is cut into two. -/
theorem exists_split (h : Describes text (met ++ more) elements)
    (hclosed : depthFrom 0 (boundaries met) = 0) (hmet : 0 < rootsFrom 0 (boundaries met))
    (hmore : 0 < rootsFrom 0 (boundaries more)) :
    ∃ first later before after, text = first ++ later ∧ elements = before ++ after ∧
      Describes first met before ∧ Describes later more after := by
  have hfault := congrArg Reading.fault h.read
  have hmetRead := Reading.ofPieces_eq_of_fault_eq_none hfault none
  rw [Reading.ofPieces_append (congrArg Reading.fault hmetRead) hclosed] at hfault
  have hlater := h.depthFrom_eq
  rw [boundaries_append, depthFrom_append, hclosed] at hlater
  obtain ⟨before, after, rfl, hbefore, hafter⟩ := Outline.exists_of_foldlM_append
    (boundaries_append met more ▸ h.made) h.fits hclosed hlater hmet hmore
  have hfits := h.fits
  rw [sizeAll_append] at hfits
  obtain ⟨_, hscan⟩ := h.scan
  obtain ⟨first, later, _, rfl, hfirst, hrest⟩ := hscan.exists_cut
  exact ⟨first, later, before, after, rfl, rfl,
    ⟨⟨_, hfirst⟩, hmetRead, hbefore, Nat.le_trans (Nat.le_add_right _ _) hfits⟩,
    ⟨⟨_, hrest⟩, Reading.ofPieces_eq hfault, hafter, Nat.le_trans (Nat.le_add_left _ _) hfits⟩⟩

end Describes

namespace Element

/-- The nodes of trees carry the attributes of their elements. -/
theorem map_attributes_nodesAll (start : Nat) (elements : List Element) :
    (nodesAll start elements).map Node.attributes =
      (subtreesAll elements).map Element.attributes := by
  induction elements using listInduction generalizing start with
  | nil => rfl
  | cons name attributes children rest ihchildren ihrest =>
    simp [nodesAll, nodes, subtreesAll, subtrees, ihchildren, ihrest, Element.attributes]

/-- The subtrees of trees come one list of trees after the other. -/
theorem subtreesAll_append (elements later : List Element) :
    subtreesAll (elements ++ later) = subtreesAll elements ++ subtreesAll later := by
  induction elements with
  | nil => rfl
  | cons e rest ih => simp [subtreesAll, ih]

/-- Among trees that come in several lists, each list has some of the elements. -/
theorem sizeAll_le_of_mem_flatMap {α : Type} {trees : α → List Element} {items : List α} {a : α}
    (h : a ∈ items) : sizeAll (trees a) ≤ sizeAll (items.flatMap trees) := by
  obtain ⟨before, after, rfl⟩ := List.append_of_mem h
  rw [List.flatMap_append, List.flatMap_cons, sizeAll_append, sizeAll_append]
  omega

/-- There are as many subtrees as elements. -/
theorem length_subtreesAll (elements : List Element) :
    (subtreesAll elements).length = sizeAll elements := by
  rw [← List.length_map Element.attributes, ← map_attributes_nodesAll 0, List.length_map,
    length_nodesAll]

end Element

namespace TranslationUnit

open Element

variable {text : String} {unit : TranslationUnit} {elements : List Element}

/-- The number of elements of a text that stand in no other one. -/
def rootCount (text : String) : Nat :=
  rootsFrom 0 (Reading.ofText text.toList).events

end TranslationUnit

namespace Markup

variable {depth : Nat}

/-- A spelling closes all that it opens. -/
theorem Spelling.depthFrom_events (depth : Nat) (spelling : Spelling) :
    depthFrom depth spelling.events = depth := by
  induction spelling generalizing depth with
  | text gap => rfl
  | single before name attributes rest ih => exact ih depth
  | paired before name attributes content rest ihcontent ihrest =>
    rw [events, depthFrom_cons, depthFrom_append, ihcontent, depthFrom_cons]
    exact ihrest depth

/-- Inside an element, a spelling holds no root. -/
theorem Spelling.rootsFrom_events (hopen : 0 < depth) (spelling : Spelling) :
    rootsFrom depth spelling.events = 0 := by
  have hne : depth ≠ 0 := Nat.ne_of_gt hopen
  induction spelling generalizing depth with
  | text gap => rfl
  | single before name attributes rest ih =>
    rw [events, rootsFrom, if_neg fun h => hne h.1, Nat.zero_add]
    exact ih hopen hne
  | paired before name attributes content rest ihcontent ihrest =>
    have hinside : depth + 1 ≠ 0 := Nat.succ_ne_zero depth
    rw [events, rootsFrom, if_neg fun h => hne h.1, Nat.zero_add, Event.depthBehind,
      rootsFrom_append, ihcontent (Nat.succ_pos depth) hinside, Spelling.depthFrom_events,
      rootsFrom, if_neg fun h => hinside h.1, Nat.zero_add, Nat.zero_add]
    exact ihrest hopen hne

/-- A document has one root. -/
theorem Document.rootCount_text (document : Document) :
    TranslationUnit.rootCount document.text = 1 := by
  rw [TranslationUnit.rootCount, Document.text, String.toList_ofList, Reading.ofText_chars]
  cases document with
  | single before name attributes after => rfl
  | paired before name attributes content after =>
    change 1 + rootsFrom 1 (content.events ++ [.closed]) = 1
    rw [rootsFrom_append, content.rootsFrom_events Nat.one_pos, content.depthFrom_events]
    rfl

end Markup

namespace Describes

open TranslationUnit

variable {text : String} {elements : List Element}

/-- An accepted text is read as the boundaries among its pieces. -/
theorem ofText_eq (h : Describes text.toList pieces elements) :
    Reading.ofText text.toList = ⟨boundaries pieces, none⟩ := by
  obtain ⟨_, hscan⟩ := h.scan
  rw [Reading.ofText_of_scan hscan, h.read]

/-- The roots of an accepted text are those among its pieces. -/
theorem rootCount_eq (h : Describes text.toList pieces elements) :
    rootCount text = rootsFrom 0 (boundaries pieces) := by
  rw [rootCount, h.ofText_eq]

/-- A text that describes trees is read as their arena. -/
theorem ofText_eq_ok (h : Describes text.toList pieces elements) :
    ofText text = .ok (arena elements) := by
  rw [ofText, h.ofText_eq, Forest.ofReading_eq h.foldlM_eq]
  exact congrArg Except.ok (ofForest_forest elements true)

end Describes

namespace TranslationUnit

open Element

/-- An arena holds only one list of trees. -/
theorem arena_injective {elements elements' : List Element} (h : arena elements = arena elements') :
    elements = elements' :=
  shows_unique (shows_arena elements) (h ▸ shows_arena elements')

/-- A text that is read as the arena of trees describes them. -/
theorem exists_describes (h : ofText text = .ok (arena elements)) :
    ∃ pieces, Describes text.toList pieces elements := by
  obtain ⟨forest, hforest, hunit⟩ := exists_forest h
  obtain ⟨hfold, hfault, hdepth⟩ := Forest.foldlM_of_ofReading hforest
  obtain ⟨pieces, rest, hscan⟩ := Reading.exists_scan_of_fault_eq_none hfault
  rw [Reading.ofText_of_scan hscan] at hfold hfault
  have hread := Reading.ofPieces_eq hfault
  rw [hread] at hfold
  have hclosed : depthFrom 0 (boundaries pieces) = 0 :=
    (Forest.depth_foldlM hfold).symm.trans hdepth
  obtain ⟨reached, hmade, hsize, rfl⟩ :=
    Outline.exists_of_foldlM_forest Outline.size_start_le hfold
  obtain ⟨elements', rfl⟩ := Outline.exists_finished hmade hsize hclosed
  rw [ofForest_forest] at hunit
  obtain rfl := arena_injective hunit
  have hseen : decide (0 < rootsFrom 0 (boundaries pieces)) = true :=
    Forest.seen_of_ofReading hforest
  rw [hseen] at hmade
  exact ⟨pieces, ⟨rest, hscan⟩, hread, hmade, hsize⟩

/-- A text behind another one is read as if its trees stood behind those of the other, if there is
room for the elements of both. -/
theorem ofText_append {first later : String} {before after : List Element}
    (hfirst : ofText first = .ok (arena before)) (hlater : ofText later = .ok (arena after))
    (hfits : sizeAll (before ++ after) ≤ Forest.capacity) :
    ofText (first ++ later) = .ok (arena (before ++ after)) ∧
      rootCount (first ++ later) = rootCount first + rootCount later := by
  obtain ⟨met, hmet⟩ := exists_describes hfirst
  obtain ⟨more, hmore⟩ := exists_describes hlater
  have hboth : Describes (first ++ later).toList (met ++ more) (before ++ after) := by
    rw [String.toList_append]
    exact hmet.append hmore hfits
  refine ⟨hboth.ofText_eq_ok, ?_⟩
  rw [hboth.rootCount_eq, hmet.rootCount_eq, hmore.rootCount_eq, boundaries_append,
    rootsFrom_append, hmet.depthFrom_eq]

/-- An id is answered by the trees that come first, if it is one of theirs. -/
theorem byId?_arena_append (before after : List Element) (id : String) :
    (arena (before ++ after)).byId? id = ((arena before).byId? id).or
      (((arena after).byId? id).map (· + (arena before).size)) := by
  have hfind (elements : List Element) : (arena elements).byId? id =
      ((subtreesAll elements).map Element.attributes).findIdx? (·.lookup "id" == some id) := by
    rw [byId?_eq, ← map_attributes_nodesAll 0, List.findIdx?_map, List.findIdx?_eq_fst_find?_zipIdx]
    rfl
  rw [hfind, hfind, hfind, subtreesAll_append, List.map_append, List.findIdx?_append,
    List.length_map, length_subtreesAll, size_arena]

/-- Texts with one root each, with the trees below it. Behind each other, the texts make up a
text, and the trees make up a translation unit. -/
structure Joined (documents : List (String × List Element)) (text : String)
    (unit : TranslationUnit) : Prop where
  /-- There is a document. -/
  ne_nil : documents ≠ []
  /-- Each document has one root, and is accepted on its own. -/
  single : ∀ document ∈ documents, rootCount document.1 = 1 ∧
    ofText document.1 = .ok (arena document.2)
  /-- The text is that of the documents. -/
  text_eq : text = String.join (documents.map Prod.fst)
  /-- The trees are those of the documents. -/
  unit_eq : unit = arena (documents.flatMap Prod.snd)
  /-- There is room for the elements of all documents. -/
  fits : sizeAll (documents.flatMap Prod.snd) ≤ Forest.capacity

/-- Documents with one root each are accepted when they are joined. -/
theorem Joined.ofText_eq_ok {documents : List (String × List Element)}
    (h : Joined documents text unit) :
    ofText text = .ok unit ∧ rootCount text = documents.length := by
  obtain ⟨hne, hsingle, rfl, rfl, hfits⟩ := h
  induction documents with
  | nil => exact absurd rfl hne
  | cons document rest ih =>
    rw [List.forall_mem_cons] at hsingle
    obtain ⟨⟨hone, hdocument⟩, hsingle⟩ := hsingle
    cases rest with
    | nil => simpa using ⟨hdocument, hone⟩
    | cons next rest =>
      rw [List.flatMap_cons] at hfits
      have hrestFits : sizeAll ((next :: rest).flatMap Prod.snd) ≤ Forest.capacity :=
        Nat.le_trans (Nat.le_add_left _ _) (sizeAll_append document.2 _ ▸ hfits)
      obtain ⟨hrest, hcount⟩ := ih (List.cons_ne_nil next rest) hsingle hrestFits
      obtain ⟨hjoined, hroots⟩ := ofText_append hdocument hrest hfits
      rw [List.map_cons, String.join_cons, List.flatMap_cons, hroots, hone, hcount, Nat.add_comm]
      exact ⟨hjoined, rfl⟩

/-- An accepted text falls into documents with one root each. -/
theorem exists_joined (h : Describes text.toList pieces elements) :
    ∃ documents, Joined documents text (arena elements) := by
  induction hcount : rootsFrom 0 (boundaries pieces) generalizing text pieces elements with
  | zero => exact absurd hcount (Nat.ne_of_gt h.rootsFrom_pos)
  | succ count ih =>
    obtain ⟨met, more, rfl, hclosed, hone⟩ := exists_first_root h.rootsFrom_pos h.depthFrom_eq
    -- The first document ends with the first root, unless this is the only one. Then what comes
    -- behind it is no document of its own.
    by_cases hmore : 0 < rootsFrom 0 (boundaries more)
    · obtain ⟨first, later, before, after, htext, rfl, hfirst, hlater⟩ :=
        h.exists_split hclosed (hone ▸ Nat.one_pos) hmore
      obtain ⟨first, rfl⟩ : ∃ s : String, s.toList = first := ⟨.ofList first, by simp⟩
      obtain ⟨later, rfl⟩ : ∃ s : String, s.toList = later := ⟨.ofList later, by simp⟩
      obtain rfl : text = first ++ later := String.toList_inj.mp (by simpa using htext)
      have hroots : rootsFrom 0 (boundaries more) = count := by
        rw [boundaries_append, rootsFrom_append, hclosed, hone] at hcount
        omega
      obtain ⟨documents, hdocuments⟩ := ih hlater hroots
      obtain rfl := arena_injective hdocuments.unit_eq
      refine ⟨(first, before) :: documents, List.cons_ne_nil _ _, ?_, ?_, ?_, h.fits⟩
      · rw [List.forall_mem_cons]
        exact ⟨⟨hfirst.rootCount_eq.trans hone, hfirst.ofText_eq_ok⟩, hdocuments.single⟩
      · rw [List.map_cons, String.join_cons, hdocuments.text_eq]
      · rw [List.flatMap_cons]
    · have hroots : rootCount text = 1 := by
        rw [h.rootCount_eq, boundaries_append, rootsFrom_append, hclosed, hone]
        omega
      refine ⟨[(text, elements)], List.cons_ne_nil _ _, ?_, ?_, ?_, by simpa using h.fits⟩
      · rw [List.forall_mem_singleton]
        exact ⟨hroots, h.ofText_eq_ok⟩
      · simp
      · simp

/-- Whatever documents are written, they can be joined if there is room for their elements. -/
theorem joined_written {written : List Document} (hne : written ≠ [])
    (hfits : sizeAll (written.flatMap Document.elements) ≤ Forest.capacity) :
    Joined (written.map fun document => (document.text, document.elements))
      (String.join (written.map Document.text)) (arena (written.flatMap Document.elements)) where
  ne_nil := fun h => hne (List.map_eq_nil_iff.mp h)
  single := by
    rw [List.forall_mem_map]
    intro document hmem
    have hdocument : sizeAll document.elements ≤ sizeAll (written.flatMap Document.elements) :=
      sizeAll_le_of_mem_flatMap hmem
    exact ⟨document.rootCount_text, ofText_text document (Nat.le_trans hdocument hfits)⟩
  text_eq := by rw [List.map_map]; rfl
  unit_eq := by rw [List.flatMap_map]
  fits := by rwa [List.flatMap_map]

/-- A text is accepted if it falls into documents that have one root element each and are accepted
on their own. It has as many roots as there are documents, so that an accepted text has one root
just in case it is one document. The translation unit is that of the trees of all documents, and an
id is answered by the first of them that use it. Whatever documents are written one behind the
other, their texts are accepted in this way, if they have no more elements than a number of 32 bits
can tell apart. -/
theorem ofText_eq_ok_iff_joined (text : String) (unit : TranslationUnit) :
    (ofText text = .ok unit ↔ ∃ documents, Joined documents text unit) ∧
      ((ofText text = .ok unit → rootCount text = 1) ↔
        ∀ documents, Joined documents text unit → documents.length = 1) ∧
      (∀ documents, Joined documents text unit → rootCount text = documents.length ∧
        ∀ before after, documents = before ++ after → ∀ id, unit.byId? id =
          ((arena (before.flatMap Prod.snd)).byId? id).or
            (((arena (after.flatMap Prod.snd)).byId? id).map
              (· + (arena (before.flatMap Prod.snd)).size))) ∧
      ∀ written : List Document, written ≠ [] →
        sizeAll (written.flatMap Document.elements) ≤ UInt32.size →
        text = String.join (written.map Document.text) →
          Joined (written.map fun document => (document.text, document.elements)) text
            (arena (written.flatMap Document.elements)) := by
  have haccepted : ofText text = .ok unit ↔ ∃ documents, Joined documents text unit := by
    constructor
    · intro h
      obtain ⟨elements, rfl, -⟩ := exists_elements h
      obtain ⟨pieces, hpieces⟩ := exists_describes h
      exact exists_joined hpieces
    · rintro ⟨documents, h⟩
      exact h.ofText_eq_ok.1
  refine ⟨haccepted, ⟨fun hone documents h => ?_, fun hone h => ?_⟩,
    fun documents h => ⟨h.ofText_eq_ok.2, ?_⟩, ?_⟩
  · obtain ⟨hok, hroots⟩ := h.ofText_eq_ok
    exact hroots.symm.trans (hone hok)
  · obtain ⟨documents, hjoined⟩ := haccepted.mp h
    exact hjoined.ofText_eq_ok.2.trans (hone documents hjoined)
  · rintro before after rfl id
    rw [h.unit_eq, List.flatMap_append, byId?_arena_append]
  · rintro written hne hfits rfl
    exact joined_written hne hfits

/-- Two documents, one behind the other. Both use the same id. -/
def twoDocuments : String :=
  "<CastXML><Namespace id='_1' name='::'/></CastXML>" ++
    "<CastXML><Namespace id='_1' name='a'/></CastXML>"

/-- Two documents are accepted as one translation unit, where the id that both use leads to the node
of the first. So an accepted text may have more than one root. -/
theorem not_singleRoot_twoDocuments :
    (∃ unit, ofText twoDocuments = .ok unit ∧ unit.size = 2 ∧ unit.byId? "_1" = some 0) ∧
      rootCount twoDocuments = 2 ∧
      ¬∀ text unit, ofText text = .ok unit → rootCount text = 1 := by
  have hforest : Forest.ofReading (.ofText twoDocuments.toList) = .ok (Outline.forest
      ⟨[.node "Namespace" [("id", "_1"), ("name", "::")] [],
        .node "Namespace" [("id", "_1"), ("name", "a")] []], none, true⟩) := by
    decide +kernel
  have haccepted := (congrArg (Except.map ofForest) hforest).trans
    (congrArg Except.ok (ofForest_forest _ true))
  have hroots : rootCount twoDocuments = 2 := by decide +kernel
  refine ⟨⟨_, haccepted, rfl, ?_⟩, hroots, fun hsingle => ?_⟩
  · rw [byId?_eq_some_iff]
    exact ⟨by decide, by decide, nofun⟩
  · rw [hsingle twoDocuments _ haccepted] at hroots
    cases hroots

end TranslationUnit

end Bindery
