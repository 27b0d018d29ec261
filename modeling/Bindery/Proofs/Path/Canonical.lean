import Bindery.Proofs.Path.InPlace

/-!
# The canonical form of a path

The canonical form is the root or names with a slash in front of each. It is settled by the place
that a path leads to, and so it is its own canonical form, and stays the same where the path is
written with further steps that lead nowhere, or is taken apart and joined again.
-/

namespace Bindery.Path

variable {base p q : Path} {before after inserted name : List Char}

/-- What is left of a stack of names, deepest first, when a part between slashes is put on it. -/
def put (stack : List (List Char)) (part : List Char) : List (List Char) :=
  if part = [] ∨ part = ['.'] then stack
  else if part = ['.', '.'] then stack.tail
  else part :: stack

/-- Putting a part on a stack is taking the step that it stands for, if it does. -/
theorem put_eq (stack : List (List Char)) (part : List Char) :
    put stack part = (componentOf? part).elim stack (walk stack) := by
  unfold componentOf?
  split
  · rfl
  · rfl
  · rfl
  next hnone hhere hup => rw [put, if_neg (not_or.mpr ⟨hnone, hhere⟩), if_neg hup]; rfl

/-- Putting the parts of a text on a stack is taking its steps. -/
theorem foldl_put (parts : List (List Char)) (stack : List (List Char)) :
    parts.foldl put stack = (parts.filterMap componentOf?).foldl walk stack := by
  induction parts generalizing stack with
  | nil => rfl
  | cons part rest ih =>
    rw [List.foldl_cons, ih, put_eq]
    cases hcomponent : componentOf? part with
    | none => rw [List.filterMap_cons_none hcomponent, Option.elim_none]
    | some component => rw [List.filterMap_cons_some hcomponent, Option.elim_some, List.foldl_cons]

/-- The parts of a path put on a stack leave the place that it leads to. For a relative path the
parts of the directory come first. -/
theorem foldl_put_fields (base p : Path) :
    (Text.fields (· == '/') (if p.isAbsolute then p.text.toList
      else base.text.toList ++ '/' :: p.text.toList)).foldl put [] = place base p := by
  rw [foldl_put, place]
  split
  · rfl
  · exact congrArg (List.foldl walk []) (stepsOf_append_cons _ _)

/-- The path `q` is written as `p` is, but with `inserted` put in where a step of `p` begins or ends
below the root. Slashes, which may be there or put in as well, keep it apart from its neighbours. -/
structure PutIn (inserted : List Char) (p q : Path) : Prop where
  /-- What stands before and behind. -/
  exists_seam : ∃ before left right after, p.text.toList = before ++ after ∧ Seam before after ∧
    q.text.toList = (before ++ left) ++ (inserted ++ (right ++ after)) ∧
    (∀ c ∈ left, c = '/') ∧ (∀ c ∈ right, c = '/') ∧
    (before ++ left = [] ∨ (before ++ left).getLast? = some '/') ∧
    (right ++ after = [] ∨ (right ++ after).head? = some '/')
  /-- What is put in stands below the root, and does not begin there if `p` does not. -/
  isAbsolute_eq : q.isAbsolute = p.isAbsolute

/-- Slashes between two texts make no difference to their steps. -/
theorem stepsOf_append_slashes (hslashes : ∀ c ∈ after, c = '/') :
    stepsOf (before ++ after) = stepsOf before := by
  have hseam : Seam before after := by
    cases after with
    | nil => exact .inr (.inl rfl)
    | cons c rest => exact .inr (.inr (by rw [hslashes c List.mem_cons_self]; rfl))
  rw [hseam.stepsOf_append, stepsOf_slashes hslashes, List.append_nil]

/-- Slashes before a text make no difference to its steps. -/
theorem stepsOf_slashes_append (hslashes : ∀ c ∈ before, c = '/') :
    stepsOf (before ++ after) = stepsOf after := by
  induction before with
  | nil => rfl
  | cons c rest ih =>
    rw [List.forall_mem_cons] at hslashes
    rw [hslashes.1, List.cons_append, stepsOf_cons_slash, ih hslashes.2]

/-- Steps that are put in and lead back to where they begin make no difference to the place. -/
theorem PutIn.place_eq (h : PutIn inserted p q)
    (hback : ∀ stack, (stepsOf inserted).foldl walk stack = stack) (base : Path) :
    place base q = place base p := by
  obtain ⟨⟨before, left, right, after, hp, hseam, hq, hleft, hright, hfirst, hlast⟩, habsolute⟩ := h
  have hsteps (above : List (List Char)) : (stepsOf q.text.toList).foldl walk above =
      (stepsOf p.text.toList).foldl walk above := by
    have hfront : Seam (before ++ left) (inserted ++ (right ++ after)) := .inl hfirst
    have hbehind : Seam inserted (right ++ after) := .inr hlast
    rw [hq, hp, hfront.stepsOf_append, hbehind.stepsOf_append, hseam.stepsOf_append,
      stepsOf_append_slashes hleft, stepsOf_slashes_append hright, List.foldl_append,
      List.foldl_append, hback, List.foldl_append]
  simp only [place, habsolute, List.foldl_append, hsteps]

/-- The place that a canonical form leads to is the one that it was made for. -/
theorem place_absolute (base base' p : Path) : place base' (absolute base p) = place base p := by
  have hsteps := stepsOf_ofNames (isName_of_mem_reverse_place base p)
  rw [absolute_eq, place, if_pos (isAbsolute_ofNames _), hsteps, foldl_walk_names,
    List.reverse_reverse, List.append_nil]

/-- The steps of a relative path lead on from the place of the path that it is joined to. -/
theorem place_joinTo (base p : Path) (hq : q.isAbsolute = false) :
    place base (p.joinTo q) = (stepsOf q.text.toList).foldl walk (place base p) := by
  rw [place, isAbsolute_joinTo p hq, stepsOf_joinTo p hq, place]
  split
  · rw [List.foldl_append]
  · rw [List.foldl_append, List.foldl_append, List.foldl_append]

/-- Joining to the canonical form of a path leads to where joining to the path itself leads. -/
theorem place_joinTo_absolute (base base' p q : Path) :
    place base' ((absolute base p).joinTo q) = place base (p.joinTo q) := by
  cases hq : q.isAbsolute with
  | true =>
    rw [joinTo_of_isAbsolute _ hq, joinTo_of_isAbsolute _ hq, place, place, if_pos hq, if_pos hq]
  | false => rw [place_joinTo base' _ hq, place_joinTo base p hq, place_absolute]

/-- What the canonical form of a path is, as seen from a directory, and what makes no difference
to it. -/
structure Canonical (base p : Path) : Prop where
  /-- It is the root, or names with a slash in front of each: those that are left of a stack on
  which the parts of the path are put, behind those of the directory if the path is relative. -/
  exists_names : ∃ names : List (List Char),
    (absolute base p).text.toList = (if names = [] then ['/'] else names.flatMap ('/' :: ·)) ∧
    (∀ name ∈ names, name ≠ [] ∧ '/' ∉ name ∧ name ≠ ['.'] ∧ name ≠ ['.', '.']) ∧
    names.reverse = (Text.fields (· == '/') (if p.isAbsolute then p.text.toList
      else base.text.toList ++ '/' :: p.text.toList)).foldl put []
  /-- It can be made in place, one component after the other. -/
  edited : (base.joinTo p).components.foldl edit ⟨""⟩ = absolute base p
  /-- It is its own canonical form, in any directory. -/
  again : ∀ base', absolute base' (absolute base p) = absolute base p
  /-- A `.` that is put in makes no difference. -/
  here : ∀ q, PutIn ['.'] p q → absolute base q = absolute base p
  /-- Nor does a name with a `..` behind it. -/
  detour : ∀ q name, name ≠ [] ∧ '/' ∉ name ∧ name ≠ ['.'] ∧ name ≠ ['.', '.'] →
    PutIn (name ++ ['/', '.', '.']) p q → absolute base q = absolute base p
  /-- Nor does another slash next to one. -/
  slash : ∀ q before after, p.text.toList = before ++ '/' :: after →
    q.text.toList = before ++ '/' :: '/' :: after → absolute base q = absolute base p
  /-- A path that is joined to the canonical form leads to where it leads joined to the path. -/
  join : ∀ base' q, absolute base (p.joinTo q) = absolute base' ((absolute base p).joinTo q)

/-- From an absolute directory, every path has a canonical form. -/
theorem canonical (hbase : base.isAbsolute = true) (p : Path) : Canonical base p := by
  have heq {q : Path} (hplace : place base q = place base p) :
      absolute base q = absolute base p := by
    rw [absolute_eq, absolute_eq, hplace]
  refine ⟨⟨(place base p).reverse, ?_, fun name hname => ?_, ?_⟩, foldl_edit_components hbase p,
    fun base' => ?_, fun q hput => heq (hput.place_eq (fun _ => rfl) base),
    fun q name hname hput => heq (hput.place_eq (fun stack => ?_) base),
    fun q before after hp hq => heq ?_, fun base' q => ?_⟩
  · rw [absolute_eq, text_ofNames]
  · exact isName_iff.mp (isName_of_mem_reverse_place base p name hname)
  · rw [foldl_put_fields, List.reverse_reverse]
  · rw [absolute_eq base', place_absolute, ← absolute_eq]
  · rw [stepsOf_detour (isName_iff.mpr hname)]
    rfl
  · have habsolute : q.isAbsolute = p.isAbsolute := by
      rw [isAbsolute, hq, isAbsolute, hp]
      cases before <;> rfl
    have hsteps : stepsOf q.text.toList = stepsOf p.text.toList := by
      rw [hq, hp, stepsOf_append_cons, stepsOf_append_cons, stepsOf_cons_slash]
    rw [place, place, habsolute, hsteps]
  · rw [absolute_eq, absolute_eq, place_joinTo_absolute]

/-- A path that climbs past the root comes to the same with a detour in it. -/
theorem canonical_climbing : (⟨"/tmp"⟩ : Path).isAbsolute = true ∧
    absolute ⟨"/tmp"⟩ ⟨"../../a/x/../b"⟩ = absolute ⟨"/tmp"⟩ ⟨"../../a/b"⟩ ∧
    absolute ⟨"/tmp"⟩ ⟨"../../a/b"⟩ = ⟨"/a/b"⟩ := by
  have hbase : (⟨"/tmp"⟩ : Path).isAbsolute = true := by decide
  have hput : PutIn ['x', '/', '.', '.'] ⟨"../../a/b"⟩ ⟨"../../a/x/../b"⟩ :=
    ⟨⟨"../../a/".toList, [], ['/'], ['b'], by decide, .inl (.inr (by decide)), by decide,
      List.forall_mem_nil _, List.forall_mem_singleton.mpr rfl, .inr (by decide),
      .inr (by decide)⟩, by decide⟩
  exact ⟨hbase, (canonical hbase ⟨"../../a/b"⟩).detour _ ['x'] (by decide) hput, by decide +kernel⟩

end Bindery.Path
