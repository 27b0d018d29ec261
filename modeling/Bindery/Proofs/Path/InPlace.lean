import Bindery.Proofs.Path.Steps

/-!
# Canonical paths by editing

A canonical path can be made by editing a path in place: each component of the other path is put
behind what is there, and a `..` takes the last component away again, with the slashes before it.
What is edited is canonical all the time.
-/

namespace Bindery.Path

variable {base p : Path} {above names : List (List Char)} {name : List Char}

/-- A part between slashes that stands for no step. -/
def isIdle (part : List Char) : Bool :=
  (componentOf? part).isNone

/-- What an absolute path is without its last step and the slashes before it, as it is written. -/
def parent (p : Path) : Path :=
  let outer := (p.parts.tail.reverse.dropWhile isIdle).tail
  ⟨String.ofList ('/' :: ['/'].intercalate (outer.dropWhile isIdle).reverse)⟩

/-- A path behind one more component. At the root there is nothing to take away. -/
def edit (buffer : Path) : Component → Path
  | .root => ⟨"/"⟩
  | .here => buffer
  | .up =>
    match buffer.components.getLast? with
    | none | some .root => buffer
    | some _ => buffer.parent
  | .name text => buffer.joinTo ⟨String.ofList text⟩

/-- A path made of names has a slash in front of each, and is the root without any. -/
theorem text_ofNames (names : List (List Char)) :
    (ofNames names).text.toList = if names = [] then ['/'] else names.flatMap ('/' :: ·) := by
  cases names with
  | nil => rfl
  | cons first rest => exact String.toList_ofList

/-- Names with slashes between them and one in front make a path. -/
theorem ofList_slash_intercalate (names : List (List Char)) :
    ⟨String.ofList ('/' :: ['/'].intercalate names)⟩ = ofNames names := by
  cases names with
  | nil => rfl
  | cons first rest =>
    have htext : '/' :: ['/'].intercalate (first :: rest) = (first :: rest).flatMap ('/' :: ·) := by
      induction rest generalizing first with
      | nil => simp
      | cons next rest ih => simp [List.intercalate_cons_cons, ih next]
    rw [htext]
    rfl

/-- A name is a part that stands for a step. -/
theorem IsName.isIdle_eq_false (h : IsName name) : isIdle name = false := by
  rw [isIdle, h.component]
  rfl

/-- Nothing is dropped from the front of names. -/
theorem dropWhile_isIdle (h : ∀ name ∈ names, IsName name) : names.dropWhile isIdle = names := by
  cases names with
  | nil => rfl
  | cons first rest =>
    have hfirst := (h first List.mem_cons_self).isIdle_eq_false
    exact List.dropWhile_cons_of_neg (by rw [hfirst]; exact Bool.false_ne_true)

/-- The parts of a path made of names are the names, behind the slash at its front. -/
theorem parts_ofNames (h : ∀ name ∈ names, IsName name) (hne : names ≠ []) :
    (ofNames names).parts = [] :: names := by
  rw [parts, text_ofNames, if_neg hne]
  exact fields_flatMap_slash List.not_mem_nil h

/-- Without its last step, a path made of names has the names before the last. -/
theorem parent_ofNames (h : ∀ name ∈ above, IsName name) (hname : IsName name) :
    (ofNames (name :: above).reverse).parent = ofNames above.reverse := by
  have hall : ∀ text ∈ name :: above, IsName text := List.forall_mem_cons.mpr ⟨hname, h⟩
  have hparts : (ofNames (name :: above).reverse).parts = [] :: (name :: above).reverse :=
    parts_ofNames (fun text htext => hall text (List.mem_reverse.mp htext))
      (List.reverse_ne_nil_iff.mpr (List.cons_ne_nil _ _))
  rw [parent, hparts, List.tail_cons, List.reverse_reverse, dropWhile_isIdle hall, List.tail_cons,
    dropWhile_isIdle h, ofList_slash_intercalate]

/-- A path of names ends with its last name, and not with a slash unless it is the root. -/
theorem getLast?_text_ofNames {last : List Char} (hlast : IsName last) (names : List (List Char)) :
    ∃ c, c ≠ '/' ∧ (ofNames (names ++ [last])).text.toList.getLast? = some c := by
  obtain ⟨hne, hslash, -, -⟩ := isName_iff.mp hlast
  obtain ⟨first, c, rfl⟩ := (List.eq_nil_or_concat last).resolve_left hne
  rw [List.concat_eq_append] at hslash ⊢
  refine ⟨c, ?_, ?_⟩
  · rintro rfl
    exact hslash (List.mem_append_right first List.mem_cons_self)
  · rw [text_ofNames, if_neg (by simp), List.flatMap_append, List.flatMap_singleton,
      ← List.cons_append, ← List.append_assoc, List.getLast?_concat]

/-- A name put behind a path made of names is the last of them. -/
theorem joinTo_ofNames (h : ∀ name ∈ above, IsName name) (hname : IsName name) :
    (ofNames above.reverse).joinTo ⟨String.ofList name⟩ = ofNames (name :: above).reverse := by
  obtain ⟨hne, hslash, -, -⟩ := isName_iff.mp hname
  have hrelative : (⟨String.ofList name⟩ : Path).isAbsolute = false := by
    cases name with
    | nil => exact absurd rfl hne
    | cons c rest => simpa [isAbsolute] using fun hc : c = '/' => hslash (hc ▸ List.mem_cons_self)
  have hjoined : ((ofNames above.reverse).joinTo ⟨String.ofList name⟩).text.toList =
      above.reverse.flatMap ('/' :: ·) ++ '/' :: name := by
    rw [joinTo, if_neg (by simp [hrelative])]
    cases above with
    | nil => simp [ofNames]
    | cons last outer =>
      obtain ⟨c, hc, hlast⟩ := getLast?_text_ofNames (h last List.mem_cons_self) outer.reverse
      rw [List.reverse_cons, hlast]
      split
      next hnone => cases hnone
      next heq => exact absurd (Option.some.inj heq) hc
      next => simp [text_ofNames]
  have hnew : (ofNames (name :: above).reverse).text.toList =
      above.reverse.flatMap ('/' :: ·) ++ '/' :: name := by
    rw [text_ofNames, if_neg (by simp), List.reverse_cons, List.flatMap_append,
      List.flatMap_singleton]
  exact congrArg Path.mk (String.toList_inj.mp (hjoined.trans hnew.symm))

/-- Editing a path made of names leads to the names that the step leads to. -/
theorem edit_ofNames {component : Component} (h : ∀ name ∈ above, IsName name)
    (hcomponent : ∀ name, component = .name name → IsName name) :
    edit (ofNames above.reverse) component = ofNames (walk above component).reverse := by
  cases component with
  | root => rfl
  | here => rfl
  | up =>
    rw [edit, components_ofNames fun name hname => h name (List.mem_reverse.mp hname)]
    cases above with
    | nil => rfl
    | cons last outer =>
      rw [List.forall_mem_cons] at h
      rw [List.reverse_cons, List.map_append, ← List.cons_append, List.map_singleton,
        List.getLast?_concat, ← List.reverse_cons]
      exact parent_ofNames h.2 h.1
  | name text => exact joinTo_ofNames h (hcomponent text rfl)

/-- Editing a path made of names by several components leads to the names that these lead to. -/
theorem foldl_edit_ofNames {components : List Component} (h : ∀ name ∈ above, IsName name)
    (hcomponents : ∀ name, .name name ∈ components → IsName name) :
    components.foldl edit (ofNames above.reverse) =
      ofNames (components.foldl walk above).reverse := by
  induction components generalizing above with
  | nil => rfl
  | cons component rest ih =>
    have hcomponent : ∀ name, component = .name name → IsName name := by
      rintro name rfl
      exact hcomponents name List.mem_cons_self
    rw [List.foldl_cons, List.foldl_cons, edit_ofNames h hcomponent]
    exact ih (isName_of_mem_walk h hcomponent) fun name hname =>
      hcomponents name (List.mem_cons_of_mem _ hname)

/-- The canonical form of a path is what an empty path becomes when it is edited by the components
of the path, seen from an absolute directory. -/
theorem foldl_edit_components (hbase : base.isAbsolute = true) (p : Path) :
    (base.joinTo p).components.foldl edit ⟨""⟩ = absolute base p := by
  have habsolute : (base.joinTo p).isAbsolute = true := by
    cases h : p.isAbsolute with
    | true => rwa [joinTo_of_isAbsolute base h]
    | false => rwa [isAbsolute_joinTo base h]
  have hnames (name : List Char) (hname : .name name ∈ stepsOf (base.joinTo p).text.toList) :
      IsName name := by
    refine isName_of_mem_components (p := base.joinTo p) ?_
    rw [components_of_isAbsolute habsolute]
    exact List.mem_cons_of_mem _ hname
  rw [components_of_isAbsolute habsolute, absolute, names_eq]
  exact foldl_edit_ofNames (List.forall_mem_nil _) hnames

end Bindery.Path
