import Bindery.Proofs.Settings.Key

/-!
# Layers of settings

A table assigns contents to settings if it has a value for each of them that says so, and no other
values for settings. Whatever else it holds makes no difference: laid over a table that reads as an
assignment, it makes a table that reads as its own assignment over that one, setting by setting.
-/

namespace Bindery.Settings

namespace Value

/-- A value that is laid over another one as a whole. -/
def IsLeaf (value : Value) : Prop :=
  ∀ entries, value ≠ .table entries

/-- The entries of a table. Other values have none. -/
def entries : Value → Table
  | .table entries => entries
  | _ => []

/-- What a later value makes of the one that is found, if one is. -/
def laidOver (later : Value) (found : Option Value) : Value :=
  found.elim later fun earlier => earlier.layer later

/-- A value that is not a table takes the place of the earlier one. -/
theorem IsLeaf.layer_eq {later : Value} (h : later.IsLeaf) (earlier : Value) :
    earlier.layer later = later := by
  cases later with
  | table entries => exact absurd rfl (h entries)
  | _ =>
    rw [layer]
    exact fun entries htable => by cases htable

/-- The same where there may be no earlier one. -/
theorem IsLeaf.laidOver_eq {later : Value} (h : later.IsLeaf) (found : Option Value) :
    later.laidOver found = later := by
  cases found with
  | none => rfl
  | some earlier => exact h.layer_eq earlier

/-- A table that is laid over nothing, or over a table, makes a table. -/
theorem laidOver_table {found : Option Value} (h : IsSection found) (entries : Table) :
    laidOver (.table entries) found =
      .table (found.elim entries fun earlier => Table.layer earlier.entries entries) := by
  cases found with
  | none => rfl
  | some earlier =>
    obtain ⟨known, rfl⟩ := h earlier rfl
    rw [laidOver, Option.elim_some, layer]
    rfl

/-- What later values make of the one that is found, one after the other. -/
def laidOverAll (values : List Value) (found : Option Value) : Option Value :=
  values.foldl (fun earlier later => some (later.laidOver earlier)) found

end Value

/-- A value that is meant for a setting is not a table. -/
theorem Key.Means.isLeaf {key : Key} {value : Value} {content : key.Content}
    (h : key.Means value content) : value.IsLeaf := by
  rintro entries rfl
  cases key with
  | counterStart => rcases h with h | h <;> cases h
  | _ => cases h

/-- What is found is one of the values, or the fallback where there are none. -/
def Picks (found : Option Value) (values : List Value) (fallback : Option Value) : Prop :=
  (∃ value ∈ values, found = some value) ∨ (values = [] ∧ found = fallback)

/-- The fallback may itself be picked from other values. -/
theorem Picks.trans {found fallback last : Option Value} {values others : List Value}
    (h : Picks found values fallback) (hfallback : Picks fallback others last) :
    Picks found (others ++ values) last := by
  rcases h with ⟨value, hmem, hfound⟩ | ⟨hnone, hfound⟩
  · exact .inl ⟨value, List.mem_append_right _ hmem, hfound⟩
  · rw [hnone, List.append_nil, hfound]
    exact hfallback

/-- Something is found if there are values, or a fallback. -/
theorem Picks.ne_none {found fallback : Option Value} {values : List Value}
    (h : Picks found values fallback) (hsome : values ≠ [] ∨ fallback ≠ none) : found ≠ none := by
  rcases h with ⟨value, -, hfound⟩ | ⟨hnone, hfound⟩
  · rw [hfound]
    exact Option.some_ne_none value
  · rw [hfound]
    exact hsome.resolve_left fun hvalues => hvalues hnone

/-- Of values that are no tables, one is left in the end, if there are any. -/
theorem picks_laidOverAll {values : List Value} (hleaf : ∀ value ∈ values, value.IsLeaf)
    (found : Option Value) : Picks (Value.laidOverAll values found) values found := by
  induction values generalizing found with
  | nil => exact .inr ⟨rfl, rfl⟩
  | cons value rest ih =>
    have hvalue : value.laidOver found = value := (hleaf value List.mem_cons_self).laidOver_eq found
    have hrest := ih (fun later hlater => hleaf later (List.mem_cons_of_mem _ hlater)) (some value)
    have hfirst : Picks (some value) [value] found := .inl ⟨value, List.mem_cons_self, rfl⟩
    rw [Value.laidOverAll, List.foldl_cons, hvalue]
    exact hrest.trans hfirst

namespace Table

/-- All values under a name. -/
def under (table : Table) (name : String) : List Value :=
  table.filterMap fun entry => if entry.1 = name then some entry.2 else none

/-- All values under a name in a section. -/
def inside (table : Table) (sectionName name : String) : List Value :=
  (table.under sectionName).flatMap fun value => value.entries.under name

theorem under_cons (name : String) (value : Value) (rest : Table) (other : String) :
    under ((name, value) :: rest) other =
      if name = other then value :: under rest other else under rest other := by
  rw [under, List.filterMap_cons]
  split <;> split <;> simp_all [under]

theorem lookup_cons (name : String) (value : Value) (rest : Table) (other : String) :
    List.lookup other ((name, value) :: rest) =
      if name = other then some value else rest.lookup other := by
  rw [List.lookup_cons]
  by_cases hname : name = other
  · simp [hname]
  · simp [hname, beq_eq_false_iff_ne.mpr (Ne.symm hname)]

theorem mem_under {table : Table} {name : String} {value : Value} :
    value ∈ table.under name ↔ (name, value) ∈ table := by
  rw [under, List.mem_filterMap]
  constructor
  · rintro ⟨⟨first, found⟩, hmem, hfound⟩
    split at hfound
    · rename_i hfirst
      rwa [← hfirst, ← Option.some.inj hfound]
    · cases hfound
  · intro hmem
    exact ⟨(name, value), hmem, if_pos rfl⟩

variable {table known entries : Table} {name : String}

/-- What is found under a name is one of the values there. -/
theorem picks_lookup (table : Table) (name : String) :
    Picks (table.lookup name) (table.under name) none := by
  induction table with
  | nil => exact .inr ⟨rfl, rfl⟩
  | cons entry rest ih =>
    obtain ⟨first, value⟩ := entry
    rw [lookup_cons, under_cons]
    by_cases hfirst : first = name
    · rw [if_pos hfirst, if_pos hfirst]
      exact .inl ⟨value, List.mem_cons_self, rfl⟩
    · rw [if_neg hfirst, if_neg hfirst]
      exact ih

/-- A value that was put under a name is found there, and nothing else has changed. -/
theorem lookup_put (table : Table) (name : String) (value : Value) (other : String) :
    (table.put name value).lookup other =
      if name = other then some value else table.lookup other := by
  induction table with
  | nil => rw [put, lookup_cons]
  | cons entry rest ih =>
    obtain ⟨first, old⟩ := entry
    rw [put]
    by_cases hfirst : first = name
    · rw [if_pos hfirst, lookup_cons, lookup_cons, hfirst]
      split <;> rfl
    · rw [if_neg hfirst, lookup_cons, ih, lookup_cons]
      by_cases hother : first = other
      · rw [if_pos hother, if_neg fun hname => hfirst (hother.trans hname.symm), if_pos hother]
      · rw [if_neg hother, if_neg hother]

/-- An entry is one that was put there, or was there before. -/
theorem mem_put {entry : String × Value} {value : Value} (h : entry ∈ table.put name value) :
    entry = (name, value) ∨ entry ∈ table := by
  induction table with
  | nil => exact .inl (List.mem_singleton.mp h)
  | cons first rest ih =>
    rw [put] at h
    split at h
    · exact (List.mem_cons.mp h).imp id (List.mem_cons_of_mem _)
    · rcases List.mem_cons.mp h with hentry | hmem
      · exact .inr (hentry ▸ List.mem_cons_self)
      · exact (ih hmem).imp id (List.mem_cons_of_mem _)

/-- Laying one more entry over a table. -/
theorem layer_cons (known : Table) (name : String) (value : Value) (rest : Table) :
    known.layer ((name, value) :: rest) =
      Table.layer (known.put name (value.laidOver (known.lookup name))) rest := by
  rw [layer]
  cases known.lookup name <;> rfl

/-- What is found under a name after laying entries over a table: what their values under that name
make of what was found before. -/
theorem lookup_layer (known entries : Table) (name : String) :
    (Table.layer known entries).lookup name =
      Value.laidOverAll (entries.under name) (known.lookup name) := by
  induction entries generalizing known with
  | nil => rw [layer]; rfl
  | cons entry rest ih =>
    obtain ⟨first, value⟩ := entry
    rw [layer_cons, ih, lookup_put, under_cons]
    by_cases hname : first = name
    · rw [if_pos hname, if_pos hname, hname]
      rfl
    · rw [if_neg hname, if_neg hname]

/-- Under a name with no tables, what is found after laying entries over a table is one of their
values there, or what was found before. -/
theorem picks_lookup_layer (known : Table) (hleaf : ∀ value ∈ entries.under name, value.IsLeaf) :
    Picks ((Table.layer known entries).lookup name) (entries.under name) (known.lookup name) := by
  rw [lookup_layer]
  exact picks_laidOverAll hleaf (known.lookup name)

/-- The same in a section, where tables are laid one after the other over what stands in its
place. -/
theorem picks_entryIn_laidOverAll {values : List Value} {found : Option Value}
    (htables : ∀ value ∈ values, ∃ entries, value = .table entries)
    (hleaf : ∀ value ∈ values.flatMap (·.entries.under name), value.IsLeaf)
    (hfound : IsSection found) :
    IsSection (Value.laidOverAll values found) ∧
      Picks (entryIn (Value.laidOverAll values found) name) (values.flatMap (·.entries.under name))
        (entryIn found name) := by
  induction values generalizing found with
  | nil => exact ⟨hfound, .inr ⟨rfl, rfl⟩⟩
  | cons value rest ih =>
    obtain ⟨inner, rfl⟩ := htables value List.mem_cons_self
    rw [List.flatMap_cons] at hleaf ⊢
    have hinner : ∀ value ∈ under inner name, value.IsLeaf :=
      fun value hvalue => hleaf value (List.mem_append_left _ hvalue)
    rw [Value.laidOverAll, List.foldl_cons, Value.laidOver_table hfound]
    -- The first table leaves a table, in which one of its values is found if it has any.
    generalize hchanged :
      (found.elim inner fun earlier => Table.layer earlier.entries inner) = changed
    have hpicks : Picks (changed.lookup name) (under inner name) (entryIn found name) := by
      rw [← hchanged]
      cases found with
      | none => exact picks_lookup inner name
      | some earlier =>
        obtain ⟨known, rfl⟩ := hfound earlier rfl
        exact picks_lookup_layer known hinner
    have hchangedSection : IsSection (some (.table changed)) :=
      fun later hlater => ⟨changed, (Option.some.inj hlater).symm⟩
    obtain ⟨hsection, hrest⟩ := ih
      (fun later hlater => htables later (List.mem_cons_of_mem _ hlater))
      (fun later hlater => hleaf later (List.mem_append_right _ hlater)) hchangedSection
    exact ⟨hsection, hrest.trans hpicks⟩

/-- What holds of all values under a name in both tables, and is kept when one value is laid over
another, holds of all values under that name after one table is laid over the other. -/
theorem forall_under_layer {P : Value → Prop}
    (hlayer : ∀ earlier later, P earlier → P later → P (earlier.layer later))
    (hknown : ∀ value ∈ known.under name, P value)
    (hentries : ∀ value ∈ entries.under name, P value) :
    ∀ value ∈ (Table.layer known entries).under name, P value := by
  induction entries generalizing known with
  | nil =>
    rw [layer]
    exact hknown
  | cons entry rest ih =>
    obtain ⟨first, value⟩ := entry
    rw [layer_cons]
    refine ih (fun after hafter => ?_) fun later hlater =>
      hentries later (mem_under.mpr (List.mem_cons_of_mem _ (mem_under.mp hlater)))
    -- Only the first value under the name is laid over; a second one would stay as it is.
    rcases mem_put (mem_under.mp hafter) with hentry | hmem
    · obtain ⟨rfl, rfl⟩ := Prod.mk.inj hentry
      have hvalue : P value := hentries value (mem_under.mpr List.mem_cons_self)
      rcases picks_lookup known name with ⟨old, hold, hfound⟩ | ⟨-, hfound⟩
      · rw [hfound]
        exact hlayer old value (hknown old hold) hvalue
      · rw [hfound]
        exact hvalue
    · exact hknown after (mem_under.mpr hmem)

section agreement

variable {assignment : Assignment}

/-- The value of a setting says what is assigned to it. -/
def Fits (assignment : Assignment) (key : Key) (value : Value) : Prop :=
  ∃ content, assignment key = some content ∧ key.Means value content

/-- The value is a section in which the values of a setting say what is assigned to it. -/
def SectionFits (assignment : Assignment) (key : Key) (value : Value) : Prop :=
  ∃ inner : Table, value = .table inner ∧ ∀ found ∈ inner.under key.name, Fits assignment key found

/-- The sections of a table are tables, and the values in them for settings say what is assigned.
Nothing is said about names that are no settings. -/
def Agrees (table : Table) (assignment : Assignment) : Prop :=
  ∀ key : Key, ∀ value ∈ table.under key.sectionName, SectionFits assignment key value

/-- The table has values for exactly the settings of an assignment, and all of them say just
that. -/
structure Assigns (table : Table) (assignment : Assignment) : Prop where
  /-- All values say what is assigned. -/
  agrees : table.Agrees assignment
  /-- Every setting that is assigned has a value. -/
  given : ∀ (key : Key) (content : key.Content), assignment key = some content →
    table.inside key.sectionName key.name ≠ []

/-- The sections are tables. -/
theorem Agrees.sections (h : table.Agrees assignment) (key : Key) :
    ∀ value ∈ table.under key.sectionName, ∃ inner, value = .table inner := by
  intro value hvalue
  obtain ⟨inner, hinner, -⟩ := h key value hvalue
  exact ⟨inner, hinner⟩

/-- Every value of a setting says what is assigned. -/
theorem Agrees.fits (h : table.Agrees assignment) (key : Key) :
    ∀ value ∈ table.inside key.sectionName key.name, Fits assignment key value := by
  intro value hvalue
  obtain ⟨place, hplace, hinside⟩ := List.mem_flatMap.mp hvalue
  obtain ⟨inner, rfl, hinner⟩ := h key place hplace
  exact hinner value hinside

/-- What is found in the place of a section is a table. -/
theorem Agrees.isSection (h : table.Agrees assignment) (key : Key) :
    IsSection (table.lookup key.sectionName) := by
  intro value hfound
  rcases picks_lookup table key.sectionName with ⟨first, hfirst, hlookup⟩ | ⟨-, hlookup⟩
  · rw [hfound, Option.some.injEq] at hlookup
    exact h.sections key value (hlookup ▸ hfirst)
  · rw [hfound] at hlookup
    cases hlookup

/-- A value that fits stays when it is laid over another one. -/
theorem Fits.layer {key : Key} {later : Value} (h : Fits assignment key later) (earlier : Value) :
    Fits assignment key (earlier.layer later) := by
  obtain ⟨content, hcontent, hmeans⟩ := h
  rw [hmeans.isLeaf.layer_eq earlier]
  exact ⟨content, hcontent, hmeans⟩

/-- Two sections that are laid over one another make a section. -/
theorem SectionFits.layer {key : Key} {earlier later : Value}
    (hearlier : SectionFits assignment key earlier) (hlater : SectionFits assignment key later) :
    SectionFits assignment key (earlier.layer later) := by
  obtain ⟨before, rfl, hbefore⟩ := hearlier
  obtain ⟨after, rfl, hafter⟩ := hlater
  rw [Value.layer]
  exact ⟨Table.layer before after, rfl,
    forall_under_layer (fun old _ _ hnew => hnew.layer old) hbefore hafter⟩

/-- Two tables whose values say what is assigned make such a table. -/
theorem Agrees.layer (hknown : known.Agrees assignment) (hentries : entries.Agrees assignment) :
    (Table.layer known entries).Agrees assignment :=
  fun key => forall_under_layer (fun _ _ => SectionFits.layer) (hknown key) (hentries key)

/-- The value that is found for a setting after laying a table over another one is a value of the
table for that setting, or what was found before. -/
theorem picks_given?_layer (key : Key) (hknown : IsSection (known.lookup key.sectionName))
    (hentries : entries.Agrees assignment) :
    IsSection ((Table.layer known entries).lookup key.sectionName) ∧
      Picks ((Table.layer known entries).given? key) (entries.inside key.sectionName key.name)
        (known.given? key) := by
  have hleaf : ∀ value ∈ entries.inside key.sectionName key.name, value.IsLeaf := by
    intro value hvalue
    obtain ⟨content, -, hmeans⟩ := hentries.fits key value hvalue
    exact hmeans.isLeaf
  rw [given?, lookup_layer]
  exact picks_entryIn_laidOverAll (hentries.sections key) hleaf hknown

end agreement

/-- A table that is laid over another one decides on the settings that it assigns, one by one, and
leaves the others alone. -/
theorem Reads.layer {earlier later : Assignment} (hknown : known.Reads earlier)
    (hentries : entries.Assigns later) :
    (Table.layer known entries).Reads (later.over earlier) := by
  have hstep (key : Key) := picks_given?_layer key (hknown.sections key) hentries.agrees
  refine ⟨fun key => (hstep key).1, fun key => ?_⟩
  change Option.Rel key.Means _ ((later key).or (earlier key))
  rcases (hstep key).2 with ⟨value, hvalue, hfound⟩ | ⟨hnone, hfound⟩
  · obtain ⟨content, hcontent, hmeans⟩ := hentries.agrees.fits key value hvalue
    rw [hfound, hcontent, Option.some_or]
    exact .some hmeans
  · have hunassigned : later key = none :=
      Option.eq_none_iff_forall_ne_some.mpr fun content hcontent =>
        hentries.given key content hcontent hnone
    rw [hfound, hunassigned, Option.none_or]
    exact hknown.entries key

/-- A setting that is found in a table has a value there. -/
theorem inside_ne_nil_of_given? {key : Key} (h : table.given? key ≠ none) :
    table.inside key.sectionName key.name ≠ [] := by
  rcases picks_lookup table key.sectionName with ⟨place, hplace, hfound⟩ | ⟨-, hfound⟩
  · rw [given?, hfound] at h
    cases place with
    | table inner =>
      rcases picks_lookup inner key.name with ⟨value, hvalue, -⟩ | ⟨-, hnone⟩
      · exact List.ne_nil_of_mem (List.mem_flatMap.mpr ⟨.table inner, hplace, hvalue⟩)
      · exact absurd hnone h
    | _ => exact absurd rfl h
  · rw [given?, hfound] at h
    exact absurd rfl h

/-- A table without entries reads as nothing. -/
theorem reads_nil : Reads [] Assignment.nothing :=
  ⟨fun _ _ hfound => (Option.some_ne_none _ hfound.symm).elim, fun _ => Option.Rel.none⟩

end Table

end Bindery.Settings
