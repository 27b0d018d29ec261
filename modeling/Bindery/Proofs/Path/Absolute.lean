import Bindery.Path
import Bindery.Proofs.Text.Fields
import Mathlib.Data.List.Basic

/-!
# Canonical absolute paths

A canonical absolute path is a list of names below the root, and can be taken apart into these
again. So two canonical absolute paths name the same place only if they are written alike.
-/

namespace Bindery.Path

variable {base base' p q : Path} {names : List (List Char)}

/-- A name that a path can go down by. -/
structure IsName (text : List Char) : Prop where
  /-- It stands for itself: it is not empty, and none of the steps `.` and `..`. -/
  component : componentOf? text = some (.name text)
  /-- There is no slash in it. -/
  slash : '/' ∉ text

/-- A part that stands for a name is that name. -/
theorem eq_of_componentOf? {part text : List Char} (h : componentOf? part = some (.name text)) :
    part = text := by
  unfold componentOf? at h
  split at h <;> cases h
  rfl

/-- The names among the components of a path are names to go down by. -/
theorem isName_of_mem_components {text : List Char} (h : .name text ∈ p.components) :
    IsName text := by
  have hsteps : .name text ∈ p.parts.filterMap componentOf? := by
    unfold components at h
    split at h
    · simpa using h
    · split at h
      · simpa using h
      · exact h
  obtain ⟨part, hpart, hcomponent⟩ := List.mem_filterMap.mp hsteps
  obtain rfl := eq_of_componentOf? hcomponent
  refine ⟨hcomponent, fun hslash => ?_⟩
  have hother := Text.separates_eq_false_of_mem_fields hpart hslash
  cases hother

/-- A step along a component leads from names to names. -/
theorem isName_of_mem_walk {above : List (List Char)} {component : Component}
    (habove : ∀ text ∈ above, IsName text)
    (hcomponent : ∀ text, component = .name text → IsName text) :
    ∀ text ∈ walk above component, IsName text := by
  cases component with
  | root => exact List.forall_mem_nil _
  | here => exact habove
  | up => exact fun text htext => habove text (List.mem_of_mem_tail htext)
  | name text => exact List.forall_mem_cons.mpr ⟨hcomponent text rfl, habove⟩

/-- A walk along the components of a path arrives at names. -/
theorem isName_of_mem_names (p : Path) : ∀ text ∈ p.names, IsName text := by
  have hwalk (components : List Component) (above : List (List Char))
      (habove : ∀ text ∈ above, IsName text)
      (hcomponents : ∀ text, .name text ∈ components → IsName text) :
      ∀ text ∈ components.foldl walk above, IsName text := by
    induction components generalizing above with
    | nil => exact habove
    | cons component rest ih =>
      refine ih _ (isName_of_mem_walk habove ?_) fun text htext =>
        hcomponents text (List.mem_cons_of_mem _ htext)
      rintro text rfl
      exact hcomponents text List.mem_cons_self
  intro text htext
  rw [Path.names, List.mem_reverse] at htext
  exact hwalk p.components [] (List.forall_mem_nil _) (fun _ => isName_of_mem_components) text htext

/-- Names with a slash before each of them are the fields between the slashes. -/
theorem fields_flatMap_slash {first : List Char} (hfirst : '/' ∉ first)
    (hnames : ∀ text ∈ names, IsName text) :
    Text.fields (· == '/') (first ++ names.flatMap ('/' :: ·)) = first :: names := by
  induction names generalizing first with
  | nil => rw [List.flatMap_nil, List.append_nil, Text.fields_of_not_mem hfirst]
  | cons name rest ih =>
    rw [List.forall_mem_cons] at hnames
    rw [List.flatMap_cons, List.cons_append, Text.fields_append_cons (by rfl),
      Text.fields_of_not_mem hfirst, ih hnames.1.slash hnames.2]
    rfl

/-- The components of an absolute path that is put together from names. -/
theorem components_ofNames (h : ∀ text ∈ names, IsName text) :
    (ofNames names).components = .root :: names.map .name := by
  cases names with
  | nil => decide
  | cons name rest =>
    have htext : (ofNames (name :: rest)).text.toList = (name :: rest).flatMap ('/' :: ·) :=
      String.toList_ofList
    have hparts : (ofNames (name :: rest)).parts = [] :: name :: rest := by
      rw [parts, htext]
      exact fields_flatMap_slash List.not_mem_nil h
    have habsolute : (ofNames (name :: rest)).isAbsolute = true := by
      rw [isAbsolute, htext]
      rfl
    have hsteps : (name :: rest).filterMap componentOf? = (name :: rest).map .name := by
      rw [← List.filterMap_eq_map]
      exact List.filterMap_congr fun text htext => (h text htext).component
    rw [components, habsolute, if_pos rfl, hparts, List.filterMap_cons_none rfl, hsteps]

/-- In a directory, every path has a canonical absolute form. -/
theorem absolute?_some (base p : Path) : absolute? (some base) p = some (absolute base p) := by
  unfold absolute?
  split
  next habsolute => rw [absolute, joinTo, if_pos habsolute]
  next => rfl

/-- A canonical absolute form is that in some directory. -/
theorem exists_absolute_of_absolute? {directory : Option Path}
    (h : absolute? directory p = some q) : ∃ base, q = absolute base p := by
  unfold absolute? at h
  split at h
  next habsolute =>
    refine ⟨p, (Option.some.inj h).symm.trans ?_⟩
    rw [absolute, joinTo, if_pos habsolute]
  next =>
    obtain ⟨base, -, hbase⟩ := Option.map_eq_some_iff.mp h
    exact ⟨base, hbase.symm⟩

/-- Two canonical absolute paths name the same place only if they are the same. -/
theorem same_absolute_iff :
    (absolute base p).same (absolute base' q) = true ↔ absolute base p = absolute base' q := by
  have hinjective : Function.Injective Component.name := fun _ _ => Component.name.inj
  constructor
  · intro h
    rw [same, beq_iff_eq, absolute, absolute, components_ofNames (isName_of_mem_names _),
      components_ofNames (isName_of_mem_names _)] at h
    exact congrArg ofNames (List.map_injective_iff.mpr hinjective (List.cons.inj h).2)
  · intro h
    rw [h, same, beq_self_eq_true]

end Bindery.Path
