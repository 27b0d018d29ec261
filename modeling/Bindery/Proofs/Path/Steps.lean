import Bindery.Proofs.Path.Absolute

/-!
# The steps of a path

What a path means is settled by its steps, one for each part between slashes that stands for one.
Where a step ends or begins, the steps before and behind are those of two texts of their own. So a
path can be joined to another one, and steps can be put in, without a look at the other steps. The
canonical form of a path is the place that its steps lead to.
-/

namespace Bindery.Path

variable {base p q : Path} {before after : List Char} {names : List (List Char)}

/-- A name to go down by is a part that is not empty, none of `.` and `..`, and without a slash. -/
theorem isName_iff {text : List Char} :
    IsName text ↔ text ≠ [] ∧ '/' ∉ text ∧ text ≠ ['.'] ∧ text ≠ ['.', '.'] := by
  constructor
  · rintro ⟨hcomponent, hslash⟩
    refine ⟨?_, hslash, ?_, ?_⟩ <;> rintro rfl <;> cases hcomponent
  · rintro ⟨hne, hslash, hhere, hup⟩
    refine ⟨?_, hslash⟩
    unfold componentOf?
    split
    · exact absurd rfl hne
    · exact absurd rfl hhere
    · exact absurd rfl hup
    · rfl

/-- The steps that a text stands for. -/
def stepsOf (text : List Char) : List Component :=
  (Text.fields (· == '/') text).filterMap componentOf?

/-- A step of the text ends where its two parts meet: there is a slash on one side, or nothing. -/
def Seam (before after : List Char) : Prop :=
  (before = [] ∨ before.getLast? = some '/') ∨ after = [] ∨ after.head? = some '/'

/-- An empty text has no steps. -/
@[simp]
theorem stepsOf_nil : stepsOf [] = [] :=
  rfl

/-- A slash keeps the steps before and behind it apart. -/
theorem stepsOf_append_cons (before after : List Char) :
    stepsOf (before ++ '/' :: after) = stepsOf before ++ stepsOf after := by
  rw [stepsOf, Text.fields_append_cons (by rfl), List.filterMap_append, stepsOf, stepsOf]

/-- A slash in front of a text adds no step. -/
theorem stepsOf_cons_slash (after : List Char) : stepsOf ('/' :: after) = stepsOf after :=
  stepsOf_append_cons [] after

/-- The steps of two texts with a seam between them are those of the one and then those of the
other. -/
theorem Seam.stepsOf_append (h : Seam before after) :
    stepsOf (before ++ after) = stepsOf before ++ stepsOf after := by
  rcases h with (rfl | hlast) | rfl | hfirst
  · rfl
  · obtain ⟨first, rfl⟩ := List.getLast?_eq_some_iff.mp hlast
    rw [List.append_assoc, List.singleton_append, stepsOf_append_cons, stepsOf_append_cons,
      stepsOf_nil, List.append_nil]
  · rw [List.append_nil, stepsOf_nil, List.append_nil]
  · obtain ⟨rest, rfl⟩ := List.head?_eq_some_iff.mp hfirst
    rw [stepsOf_append_cons, stepsOf_cons_slash]

/-- Slashes alone stand for no step. -/
theorem stepsOf_slashes {text : List Char} (h : ∀ c ∈ text, c = '/') : stepsOf text = [] := by
  induction text with
  | nil => rfl
  | cons c rest ih =>
    rw [List.forall_mem_cons] at h
    rw [h.1, stepsOf_cons_slash, ih h.2]

/-- A name with a `..` behind it is a step down and a step up. -/
theorem stepsOf_detour {name : List Char} (h : IsName name) :
    stepsOf (name ++ ['/', '.', '.']) = [.name name, .up] := by
  rw [stepsOf_append_cons, stepsOf, Text.fields_of_not_mem h.slash,
    List.filterMap_cons_some h.component]
  rfl

/-- The components of an absolute path are the root and its steps. -/
theorem components_of_isAbsolute (h : p.isAbsolute = true) :
    p.components = .root :: stepsOf p.text.toList := by
  rw [components, if_pos h]
  rfl

/-- The names of a path are those that its steps lead to. -/
theorem names_eq (p : Path) : p.names = ((stepsOf p.text.toList).foldl walk []).reverse := by
  rw [Path.names, components]
  split
  · rfl
  · split <;> rfl

/-- The steps of a relative path in a directory come behind those of the directory. -/
theorem stepsOf_joinTo (base : Path) (h : p.isAbsolute = false) :
    stepsOf (base.joinTo p).text.toList = stepsOf base.text.toList ++ stepsOf p.text.toList := by
  rw [joinTo, if_neg (by simp [h])]
  split
  next hnone =>
    rw [List.getLast?_eq_none_iff] at hnone
    rw [String.toList_append, hnone]
    rfl
  next hslash =>
    rw [String.toList_append]
    exact Seam.stepsOf_append (.inl (.inr hslash))
  next =>
    rw [String.toList_append, String.toList_append, List.append_assoc]
    exact stepsOf_append_cons _ _

/-- A relative path in a directory is absolute if the directory is. -/
theorem isAbsolute_joinTo (base : Path) (h : p.isAbsolute = false) :
    (base.joinTo p).isAbsolute = base.isAbsolute := by
  have hp : p.text.toList.head? ≠ some '/' := by simpa [isAbsolute] using h
  have hempty : base.text.toList = [] → base.isAbsolute = false := by
    intro hnil
    simp [isAbsolute, hnil]
  rw [joinTo, if_neg (by simp [h])]
  cases hbase : base.text.toList with
  | nil =>
    rw [hempty hbase]
    simp [isAbsolute, hbase, hp]
  | cons first rest =>
    split <;> simp [isAbsolute, hbase]

/-- An absolute path stands for the same in every directory. -/
theorem joinTo_of_isAbsolute (base : Path) (h : p.isAbsolute = true) : base.joinTo p = p := by
  rw [joinTo, if_pos h]

/-- The names, deepest first, of the place that a path leads to. -/
def place (base p : Path) : List (List Char) :=
  if p.isAbsolute then (stepsOf p.text.toList).foldl walk []
  else (stepsOf base.text.toList ++ stepsOf p.text.toList).foldl walk []

/-- The names of a path in a directory are those of the place that it leads to from there. -/
theorem names_joinTo (base p : Path) : (base.joinTo p).names = (place base p).reverse := by
  rw [names_eq, place]
  cases h : p.isAbsolute with
  | true => rw [joinTo_of_isAbsolute base h, if_pos rfl]
  | false => rw [stepsOf_joinTo base h, if_neg Bool.false_ne_true]

/-- The canonical form of a path has the names of the place that the path leads to. -/
theorem absolute_eq (base p : Path) : absolute base p = ofNames (place base p).reverse := by
  rw [absolute, names_joinTo]

/-- The names of a place are names to go down by. -/
theorem isName_of_mem_place (base p : Path) : ∀ name ∈ place base p, IsName name := by
  intro name hname
  refine isName_of_mem_names (base.joinTo p) name ?_
  rw [names_joinTo]
  exact List.mem_reverse.mpr hname

/-- The names of a canonical form are names to go down by. -/
theorem isName_of_mem_reverse_place (base p : Path) :
    ∀ name ∈ (place base p).reverse, IsName name :=
  fun name hname => isName_of_mem_place base p name (List.mem_reverse.mp hname)

/-- Names lead down, one after the other. -/
theorem foldl_walk_names (names above : List (List Char)) :
    (names.map Component.name).foldl walk above = names.reverse ++ above := by
  induction names generalizing above with
  | nil => rfl
  | cons name rest ih =>
    rw [List.map_cons, List.foldl_cons, ih, walk, List.reverse_cons, List.append_assoc]
    rfl

/-- A path that is put together from names is absolute. -/
theorem isAbsolute_ofNames (names : List (List Char)) : (ofNames names).isAbsolute = true := by
  cases names with
  | nil => rfl
  | cons name rest => simp [ofNames, isAbsolute]

/-- The steps of a path that is put together from names lead down these. -/
theorem stepsOf_ofNames (h : ∀ name ∈ names, IsName name) :
    stepsOf (ofNames names).text.toList = names.map .name := by
  have hcomponents := components_ofNames h
  rw [components_of_isAbsolute (isAbsolute_ofNames names)] at hcomponents
  exact (List.cons.inj hcomponents).2

end Bindery.Path
