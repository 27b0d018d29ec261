import Bindery.Proofs.Document.Element

/-!
# Reading a document as an outline

The nodes of a translation unit are written one after the other while the text is read, each with
the numbers of its children so far. The same reading can be followed on trees: those that are
finished, and the elements that are still open with what is nested in them so far. `step_forest`
says that the two ways of reading agree at each element boundary, as long as there is room for the
nodes. So whatever is read is the arena of some trees, and trees that can be followed are read
unless there are too many elements.
-/

namespace Bindery

open Element

/-- An element that is not closed yet. -/
structure OpenElement where
  /-- Its name. -/
  name : String
  /-- Its attributes. -/
  attributes : List (String × String)
  /-- The trees nested in it that are finished, in order. -/
  children : List Element

/-- The tree of an element that is closed. -/
def OpenElement.close (element : OpenElement) : Element :=
  .node element.name element.attributes element.children

/-- The trees of a document that is read in part. -/
structure Outline where
  /-- The finished trees directly below the document element, in order. -/
  finished : List Element
  /-- The open elements below the document element, innermost first; nothing outside of it. -/
  opened : Option (List OpenElement)
  /-- Whether a document element was met. -/
  seen : Bool

namespace Outline

variable {finished : List Element} {opened outer : List OpenElement}

/-- The number of elements in finished trees and in open elements. -/
def count (finished : List Element) : List OpenElement → Nat
  | [] => sizeAll finished
  | element :: outer => count finished outer + 1 + sizeAll element.children

/-- The numbers of the open elements. -/
def numbers (finished : List Element) : List OpenElement → List NodeId
  | [] => []
  | _ :: outer => count finished outer :: numbers finished outer

/-- The nodes of finished trees and of open elements. The innermost open element has the children
`inner` besides those that are finished. -/
def nodes (finished : List Element) (inner : List NodeId) : List OpenElement → List Node
  | [] => nodesAll 0 finished
  | element :: outer =>
    let number := count finished outer
    nodes finished [number] outer ++
      ⟨.ofName element.name, element.attributes, roots (number + 1) element.children ++ inner⟩ ::
        nodesAll (number + 1) element.children

/-- The numbers of the finished trees, and after them that of the outermost open element. -/
def top (finished : List Element) (inner : List NodeId) : List OpenElement → List NodeId
  | [] => roots 0 finished ++ inner
  | _ :: outer => top finished [count finished outer] outer

/-- A node with its children latest first. -/
def latestFirst (node : Node) : Node :=
  { node with children := node.children.reverse }

/-- What the reader holds when a document is read as far as the outline says. -/
def forest (outline : Outline) : Forest :=
  let opened := outline.opened.getD []
  { nodes := ((nodes outline.finished [] opened).map latestFirst).toArray
    top := (top outline.finished [] opened).reverse
    opened := numbers outline.finished opened
    depth := outline.opened.elim 0 fun opened => opened.length + 1
    seen := outline.seen }

/-- The number of elements that are finished or open. -/
def size (outline : Outline) : Nat :=
  count outline.finished (outline.opened.getD [])

/-- What the reader holds, if there is room for all elements. -/
def toForest (outline : Outline) : Except DocumentError Forest :=
  if outline.size ≤ Forest.capacity then .ok outline.forest else .error .tooLarge

/-- Adds trees behind the finished ones of the innermost open element. -/
def addTo (finished elements : List Element) :
    List OpenElement → List Element × List OpenElement
  | [] => (finished ++ elements, [])
  | element :: outer =>
    (finished, { element with children := element.children ++ elements } :: outer)

/-- There are as many nodes as elements. -/
theorem length_nodes (finished : List Element) (inner : List NodeId) (opened : List OpenElement) :
    (nodes finished inner opened).length = count finished opened := by
  induction opened generalizing inner with
  | nil => exact length_nodesAll 0 finished
  | cons element outer ih =>
    simp only [nodes, count, List.length_append, List.length_cons, length_nodesAll, ih]
    omega

/-- The reader holds a node for each element. -/
theorem size_nodes_forest (outline : Outline) : outline.forest.nodes.size = outline.size := by
  simp only [forest, size, List.size_toArray, List.length_map, length_nodes]

/-- Trees that are added add their elements. -/
theorem count_addTo (elements : List Element) (opened : List OpenElement) :
    count (addTo finished elements opened).1 (addTo finished elements opened).2 =
      count finished opened + sizeAll elements := by
  cases opened with
  | nil => exact sizeAll_append finished elements
  | cons element outer => simp only [addTo, count, sizeAll_append, Nat.add_assoc]

/-- Closing an element changes no node. -/
theorem nodes_close (finished : List Element) (element : OpenElement) (outer : List OpenElement) :
    nodes (addTo finished [element.close] outer).1 [] (addTo finished [element.close] outer).2 =
      nodes finished [] (element :: outer) := by
  cases outer with
  | nil => simp [addTo, nodes, count, nodesAll_append, nodesAll, Element.nodes, OpenElement.close]
  | cons next outer =>
    simp [addTo, nodes, count, nodesAll_append, nodesAll, Element.nodes, OpenElement.close,
      roots_append, roots]

/-- Closing an element changes no number of a tree at the top. -/
theorem top_close (finished : List Element) (element : OpenElement) (outer : List OpenElement) :
    top (addTo finished [element.close] outer).1 [] (addTo finished [element.close] outer).2 =
      top finished [] (element :: outer) := by
  cases outer with
  | nil => simp [addTo, top, count, roots_append, roots]
  | cons next outer => simp [addTo, top]

/-- Trees that are added change no number of an open element. -/
theorem numbers_addTo (elements : List Element) (opened : List OpenElement) :
    numbers (addTo finished elements opened).1 (addTo finished elements opened).2 =
      numbers finished opened := by
  cases opened with
  | nil => rfl
  | cons element outer => rfl

/-- Changing the entry of a list that stands behind as many others as its number says. -/
theorem modify_append_cons {α : Type} {f : α → α} {before after : List α} {a : α} {number : Nat}
    (h : before.length = number) :
    (before ++ a :: after).modify number f = before ++ f a :: after := by
  subst h
  exact List.modifyTailIdx_add (List.modifyHead f) 0 before (a :: after)

/-- A new node behind all others belongs to the innermost open element, which gets its number. -/
theorem nodes_addTo (name : String) (attributes : List (String × String)) (element : OpenElement) :
    (((nodes finished [] (element :: outer)).map latestFirst) ++
        [(⟨.ofName name, attributes, []⟩ : Node)]).modify
        (count finished outer)
        (fun node => { node with children := count finished (element :: outer) :: node.children }) =
      (nodes (addTo finished [.node name attributes []] (element :: outer)).1 []
        (addTo finished [.node name attributes []] (element :: outer)).2).map latestFirst := by
  have hlength : ((nodes finished [count finished outer] outer).map latestFirst).length =
      count finished outer := by
    rw [List.length_map, length_nodes]
  simp only [nodes, List.map_append, List.map_cons, List.append_assoc, List.cons_append]
  rw [modify_append_cons hlength]
  simp [addTo, nodes, latestFirst, nodesAll_append, nodesAll, Element.nodes, roots_append, roots,
    count]

/-- The outline behind more trees. -/
def add (outline : Outline) (opened : List OpenElement) (elements : List Element) : Outline :=
  ⟨(addTo outline.finished elements opened).1, some (addTo outline.finished elements opened).2,
    outline.seen⟩

/-- Adding a node is adding a tree without children. -/
theorem forest_add (outline : Outline) (name : String) (attributes : List (String × String))
    {opened : List OpenElement} (hopened : outline.opened = some opened) :
    outline.forest.add (.ofName name) attributes =
      (outline.add opened [.node name attributes []]).forest := by
  cases opened with
  | nil =>
    simp [Forest.add, forest, add, hopened, numbers, addTo, nodes, top, nodesAll_append, nodesAll,
      Element.nodes, roots, roots_append, latestFirst, length_nodesAll]
  | cons element outer =>
    have hsize : ((nodes outline.finished [] (element :: outer)).map latestFirst).toArray.size =
        count outline.finished (element :: outer) := by
      rw [List.size_toArray, List.length_map, length_nodes]
    simp only [Forest.add, forest, hopened, Option.getD_some, numbers, hsize, List.push_toArray,
      List.modify_toArray, nodes_addTo]
    rfl

/-- The outline behind one more element boundary. -/
def step (outline : Outline) : Markup.Event → Except Markup.Error Outline
  | .empty tag =>
    match outline.opened with
    | none => .ok { outline with seen := true }
    | some opened => do
      return outline.add opened [.node (String.ofList tag.name) (← tag.attributes) []]
  | .opened tag =>
    match outline.opened with
    | none => .ok { outline with opened := some [], seen := true }
    | some opened => do
      let element : OpenElement := ⟨String.ofList tag.name, ← tag.attributes, []⟩
      return { outline with opened := some (element :: opened) }
  | .closed =>
    match outline.opened with
    | none => .ok outline
    | some [] => .ok { outline with opened := none }
    | some (element :: outer) => .ok (outline.add outer [element.close])

/-- Opening an element adds its node and leaves it open. -/
theorem forest_descend (outline : Outline) (name : String) (attributes : List (String × String))
    {opened : List OpenElement} (hopened : outline.opened = some opened) :
    (outline.add opened [.node name attributes []]).forest.descend =
      { outline with opened := some (⟨name, attributes, []⟩ :: opened) }.forest := by
  have hnodes := nodes_close outline.finished ⟨name, attributes, []⟩ opened
  have htop := top_close outline.finished ⟨name, attributes, []⟩ opened
  have hdepth : (addTo outline.finished [.node name attributes []] opened).2.length =
      opened.length := by
    cases opened <;> rfl
  simp only [OpenElement.close] at hnodes htop
  simp only [Forest.descend, forest, add, Option.getD_some, Option.elim_some, hnodes, htop,
    numbers_addTo, hdepth, List.size_toArray, List.length_map, length_nodes, count, numbers,
    sizeAll, Nat.add_zero, Nat.add_sub_cancel, List.length_cons]

/-- Closing an element moves the reader on as closing the element of the outline does. -/
theorem forest_close (outline : Outline) (element : OpenElement)
    (hopened : outline.opened = some (element :: outer)) :
    { outline.forest with
      opened := outline.forest.opened.tail, depth := outline.forest.depth - 1 } =
      (outline.add outer [element.close]).forest := by
  have hdepth : (addTo outline.finished [element.close] outer).2.length = outer.length := by
    cases outer <;> rfl
  simp only [forest, add, hopened, Option.getD_some, Option.elim_some, nodes_close, top_close,
    numbers_addTo, hdepth, numbers, List.tail_cons, List.length_cons, Nat.add_sub_cancel]

/-- The elements that are added to an outline add to its size. -/
theorem size_add (outline : Outline) {opened : List OpenElement} (elements : List Element)
    (hopened : outline.opened = some opened) :
    (outline.add opened elements).size = outline.size + sizeAll elements := by
  rw [size, size, hopened]
  exact count_addTo elements opened

/-- An element that is opened adds itself. -/
theorem size_open {outline : Outline} {opened : List OpenElement}
    (hopened : outline.opened = some opened) (name : String)
    (attributes : List (String × String)) :
    { outline with opened := some (⟨name, attributes, []⟩ :: opened) }.size =
      outline.size + sizeAll [.node name attributes []] := by
  simp [size, hopened, count, sizeAll, Element.size]

/-- An element that is closed stays as large as it is. -/
theorem size_close {outline : Outline} {element : OpenElement}
    (hopened : outline.opened = some (element :: outer)) :
    (outline.add outer [element.close]).size = outline.size := by
  rw [size, size, hopened]
  refine (count_addTo [element.close] outer).trans ?_
  simp only [Option.getD_some, count, sizeAll, OpenElement.close, Element.size]
  omega

/-- A boundary leaves no element out. -/
theorem size_le_of_step {outline next : Outline} {event : Markup.Event}
    (h : outline.step event = .ok next) : outline.size ≤ next.size := by
  cases hopened : outline.opened with
  | none =>
    have hsame : next.finished = outline.finished ∧ next.opened.getD [] = [] := by
      cases event <;> simp only [step, hopened] at h <;> cases h <;> simp [hopened]
    simp [size, hopened, hsame]
  | some opened =>
    cases event with
    | empty tag =>
      simp only [step, hopened] at h
      cases hattributes : tag.attributes with
      | error cause => rw [hattributes] at h; cases h
      | ok attributes =>
        rw [hattributes] at h
        cases h
        exact Nat.le.intro (size_add outline _ hopened).symm
    | opened tag =>
      simp only [step, hopened] at h
      cases hattributes : tag.attributes with
      | error cause => rw [hattributes] at h; cases h
      | ok attributes =>
        rw [hattributes] at h
        cases h
        exact Nat.le.intro (size_open hopened _ attributes).symm
    | closed =>
      simp only [step, hopened] at h
      cases opened with
      | nil =>
        cases h
        simp [size, hopened]
      | cons element outer =>
        cases h
        exact Nat.le_of_eq (size_close hopened).symm

/-- Where there is room for all elements, the reader holds them. -/
theorem toForest_of_le {outline : Outline} (h : outline.size ≤ Forest.capacity) :
    outline.toForest = .ok outline.forest :=
  if_pos h

/-- Where there is no room for all elements, the reader stops. -/
theorem toForest_of_lt {outline : Outline} (h : Forest.capacity < outline.size) :
    outline.toForest = .error .tooLarge :=
  if_neg (Nat.not_le.mpr h)

/-- An element that begins inside the document element adds its node if there is room for one
more. -/
theorem enter_forest (outline : Outline) {opened : List OpenElement}
    (hopened : outline.opened = some opened) (tag : Markup.Tag) :
    outline.forest.enter tag = tag.attributes.mapError .markup >>= fun attributes =>
      (outline.add opened [.node (String.ofList tag.name) attributes []]).toForest := by
  have hdepth : outline.forest.depth = opened.length + 1 := by simp [forest, hopened]
  simp only [Forest.enter, hdepth]
  cases tag.attributes with
  | error cause => rfl
  | ok attributes =>
    change (if outline.forest.nodes.size < Forest.capacity then .ok _ else .error .tooLarge) =
      Outline.toForest _
    rw [size_nodes_forest, forest_add outline _ attributes hopened, toForest,
      size_add outline _ hopened]
    rfl

/-- At each element boundary the reader does what the outline does, unless there is no room for the
node of an element that begins. -/
theorem step_forest {outline : Outline} (hsize : outline.size ≤ Forest.capacity)
    (event : Markup.Event) :
    outline.forest.step event = (outline.step event).mapError .markup >>= toForest := by
  cases hopened : outline.opened with
  | none =>
    have hroom {next : Outline} (hnext : next.size = outline.size) :
        next.toForest = .ok next.forest :=
      toForest_of_le (hnext ▸ hsize)
    cases event with
    | empty tag =>
      have hnext : outline.step (.empty tag) = .ok { outline with seen := true } := by
        simp [step, hopened]
      have hsame : ({ outline with seen := true } : Outline).size = outline.size := rfl
      rw [hnext]
      refine Eq.trans ?_ (hroom hsame).symm
      simp [Forest.step, Forest.enter, forest, hopened]
    | opened tag =>
      have hnext : outline.step (.opened tag) =
          .ok { outline with opened := some [], seen := true } := by
        simp [step, hopened]
      rw [hnext]
      have hsame : ({ outline with opened := some [], seen := true } : Outline).size =
          outline.size := by
        simp [size, hopened]
      refine Eq.trans ?_ (hroom hsame).symm
      simp [Forest.step, Forest.enter, Except.map, Forest.descend, forest, hopened, numbers,
        nodes, top]
    | closed =>
      have hnext : outline.step .closed = .ok outline := by simp [step, hopened]
      rw [hnext]
      refine Eq.trans ?_ (hroom rfl).symm
      simp [Forest.step, forest, hopened, numbers]
  | some opened =>
    cases event with
    | empty tag =>
      simp only [Forest.step, enter_forest outline hopened, step, hopened]
      cases tag.attributes <;> rfl
    | opened tag =>
      simp only [Forest.step, enter_forest outline hopened, step, hopened]
      cases tag.attributes with
      | error cause => rfl
      | ok attributes =>
        change (toForest _).map Forest.descend = toForest _
        rw [toForest, size_add outline _ hopened, toForest, size_open hopened]
        split
        · exact congrArg Except.ok (forest_descend outline _ attributes hopened)
        · rfl
    | closed =>
      cases opened with
      | nil =>
        have hnext : outline.step .closed = .ok { outline with opened := none } := by
          simp [step, hopened]
        have hroom : ({ outline with opened := none } : Outline).size ≤ Forest.capacity := by
          simpa [size, hopened] using hsize
        rw [hnext]
        refine Eq.trans ?_ (toForest_of_le hroom).symm
        simp [Forest.step, forest, hopened, numbers]
      | cons element outer =>
        have hnext : outline.step .closed = .ok (outline.add outer [element.close]) := by
          simp [step, hopened]
        have hroom : (outline.add outer [element.close]).size ≤ Forest.capacity := by
          rwa [size_close hopened]
        rw [hnext]
        refine Eq.trans ?_ (toForest_of_le hroom).symm
        exact congrArg Except.ok (forest_close outline element hopened)

/-- Boundaries that are passed leave no element out. -/
theorem size_le_of_foldlM {outline final : Outline} {events : List Markup.Event}
    (h : events.foldlM step outline = .ok final) : outline.size ≤ final.size := by
  induction events generalizing outline with
  | nil =>
    cases h
    exact Nat.le_refl _
  | cons event events ih =>
    rw [List.foldlM_cons] at h
    cases hstep : outline.step event with
    | error cause => rw [hstep] at h; cases h
    | ok next =>
      rw [hstep] at h
      exact Nat.le_trans (size_le_of_step hstep) (ih h)

/-- Boundaries that an outline passes are read, unless there is no room for all elements. -/
theorem foldlM_forest {outline final : Outline} {events : List Markup.Event}
    (hsize : outline.size ≤ Forest.capacity) (h : events.foldlM step outline = .ok final) :
    events.foldlM Forest.step outline.forest = final.toForest := by
  induction events generalizing outline with
  | nil =>
    cases h
    exact (toForest_of_le hsize).symm
  | cons event events ih =>
    rw [List.foldlM_cons] at h ⊢
    rw [step_forest hsize]
    cases hstep : outline.step event with
    | error cause => rw [hstep] at h; cases h
    | ok next =>
      rw [hstep] at h
      change next.toForest >>= _ = _
      rcases Nat.lt_or_ge Forest.capacity next.size with hnext | hnext
      · rw [toForest_of_lt hnext, toForest_of_lt (Nat.lt_of_lt_of_le hnext (size_le_of_foldlM h))]
        rfl
      · rw [toForest_of_le hnext]
        exact ih hnext h

/-- What is read from boundaries is an outline that passes them, and there is room for its
elements. -/
theorem exists_of_foldlM_forest {outline : Outline} {forest : Forest} {events : List Markup.Event}
    (hsize : outline.size ≤ Forest.capacity)
    (h : events.foldlM Forest.step outline.forest = .ok forest) :
    ∃ final, events.foldlM step outline = .ok final ∧ final.size ≤ Forest.capacity ∧
      forest = final.forest := by
  induction events generalizing outline with
  | nil =>
    cases h
    exact ⟨outline, rfl, hsize, rfl⟩
  | cons event events ih =>
    rw [List.foldlM_cons] at h ⊢
    rw [step_forest hsize] at h
    cases hstep : outline.step event with
    | error cause => rw [hstep] at h; cases h
    | ok next =>
      rw [hstep] at h
      change next.toForest >>= _ = _ at h
      rcases Nat.lt_or_ge Forest.capacity next.size with hnext | hnext
      · rw [toForest_of_lt hnext] at h
        cases h
      · rw [toForest_of_le hnext] at h
        exact ih hnext h

/-- Nothing is read yet. -/
def start : Outline :=
  ⟨[], none, false⟩

/-- Where nothing is read yet, there is room. -/
theorem size_start_le : start.size ≤ Forest.capacity :=
  Nat.zero_le _

end Outline

namespace Forest

/-- A forest is read from element boundaries that are read without fault, and close all elements. -/
theorem foldlM_of_ofReading {reading : Markup.Reading} {forest : Forest}
    (h : ofReading reading = .ok forest) :
    reading.events.foldlM step empty = .ok forest ∧ reading.fault = none ∧ forest.depth = 0 := by
  unfold ofReading at h
  cases hevents : reading.events.foldlM step empty with
  | error cause => rw [hevents] at h; cases h
  | ok found =>
    rw [hevents] at h
    cases hfault : reading.fault with
    | some cause => rw [hfault] at h; cases h
    | none =>
      rw [hfault] at h
      change (if 0 < found.depth then _ else if found.seen then _ else _) = _ at h
      split at h
      · cases h
      next hdepth =>
        split at h
        · cases h
          exact ⟨rfl, rfl, Nat.eq_zero_of_not_pos hdepth⟩
        · cases h

end Forest

namespace TranslationUnit

/-- Behind the last element boundary the reader holds the arena of the finished trees. -/
theorem ofForest_forest (elements : List Element) (seen : Bool) :
    ofForest (Outline.forest ⟨elements, none, seen⟩) = arena elements := by
  have hnodes : (nodesAll 0 elements).map
      (fun node => { Outline.latestFirst node with
        children := (Outline.latestFirst node).children.reverse }) = nodesAll 0 elements := by
    simp [Outline.latestFirst]
  simp [ofForest, arena, Outline.forest, Outline.nodes, Outline.top, Function.comp_def, hnodes]

/-- An accepted text is read as a forest. -/
theorem exists_forest {text : String} {unit : TranslationUnit} (h : ofText text = .ok unit) :
    ∃ forest, Forest.ofReading (.ofText text.toList) = .ok forest ∧ ofForest forest = unit := by
  unfold ofText at h
  cases hreading : Forest.ofReading (.ofText text.toList) with
  | error cause => rw [hreading] at h; cases h
  | ok forest => rw [hreading] at h; exact ⟨forest, rfl, Except.ok.inj h⟩

/-- What an accepted text describes is the arena of some trees, with room for all their elements. -/
theorem exists_elements {text : String} {unit : TranslationUnit} (h : ofText text = .ok unit) :
    ∃ elements, unit = arena elements ∧ sizeAll elements ≤ Forest.capacity := by
  obtain ⟨forest, hforest, rfl⟩ := exists_forest h
  obtain ⟨hfold, -, hdepth⟩ := Forest.foldlM_of_ofReading hforest
  obtain ⟨⟨elements, opened, seen⟩, -, hsize, rfl⟩ :=
    Outline.exists_of_foldlM_forest Outline.size_start_le hfold
  cases opened with
  | none => exact ⟨elements, ofForest_forest elements seen, hsize⟩
  | some opened => simp [Outline.forest] at hdepth

end TranslationUnit

end Bindery
