import Bindery.Proofs.Settings.Layer
import Bindery.Settings.Variable
import Mathlib.Data.List.Induction

/-!
# The environment as a layer

Every setting has a variable, whose name is written in capital letters. An environment that gives
settings through these names only, and holds nothing else that stands on the way to a setting or
below one, makes a table that assigns what the variables say.
-/

namespace Bindery.Settings

/-- The name of the variable for a setting. -/
def Key.variable (key : Key) : String :=
  "CASTBIND_" ++ "__".intercalate (key.path.map fun part =>
    String.ofList (part.toList.map Char.toUpper))

/-- The name of the variable leads to the setting. -/
theorem Key.path?_variable (key : Key) : Variable.path? key.variable = some key.path := by
  cases key <;> decide +kernel

namespace Table

theorem under_singleton (name : String) (value : Value) (other : String) :
    under [(name, value)] other = if name = other then [value] else [] :=
  under_cons name value [] other

/-- A table with a single path in it has one value under the first part, which is a table if there
are more parts. -/
theorem under_single_cons (first : String) (second : String) (rest : List String) (value : Value)
    (name : String) : (single (first :: second :: rest) value).under name =
      if first = name then [.table (single (second :: rest) value)] else [] := by
  rw [single]
  · exact under_singleton first _ name
  · exact List.cons_ne_nil second rest

variable {path : List String} {key : Key}

/-- A path that is neither that of a setting nor stands on the way to it or below it has no value
for the setting; that of the setting has one. -/
theorem inside_single (value : Value)
    (happart : path <+: key.path ∨ key.path <+: path → path = key.path) :
    (∀ place ∈ (single path value).under key.sectionName, ∃ inner, place = .table inner) ∧
      (single path value).inside key.sectionName key.name =
        if path = key.path then [value] else [] := by
  match path with
  | [] =>
    rw [if_neg fun hsame => List.cons_ne_nil _ _ hsame.symm]
    exact ⟨fun place hplace => (List.not_mem_nil hplace).elim, rfl⟩
  | [first] =>
    -- With the name of the section, the path would stand on the way to the setting.
    have hfirst : first ≠ key.sectionName := by
      rintro rfl
      cases happart (.inl ⟨[key.name], rfl⟩)
    have hunder : (single [first] value).under key.sectionName = [] := by
      rw [single, under_singleton, if_neg hfirst]
    have hother : [first] ≠ key.path := fun hsame => hfirst (List.cons.inj hsame).1
    rw [inside, hunder, if_neg hother]
    exact ⟨fun place hplace => (List.not_mem_nil hplace).elim, rfl⟩
  | first :: second :: rest =>
    rw [inside, under_single_cons]
    by_cases hfirst : first = key.sectionName
    · rw [if_pos hfirst]
      refine ⟨fun place hplace => ⟨_, List.mem_singleton.mp hplace⟩, ?_⟩
      rw [List.flatMap_singleton, Value.entries]
      by_cases hsecond : second = key.name
      · -- The path begins like that of the setting, so there is nothing behind it.
        have hsame : first :: second :: rest = key.path :=
          happart (.inr ⟨rest, by rw [hfirst, hsecond]; rfl⟩)
        obtain rfl := (List.cons.inj (List.cons.inj hsame).2).2
        rw [if_pos hsame, single, under_singleton, if_pos hsecond]
      · have hother : first :: second :: rest ≠ key.path :=
          fun hsame => hsecond (List.cons.inj (List.cons.inj hsame).2).1
        rw [if_neg hother]
        cases rest with
        | nil => rw [single, under_singleton, if_neg hsecond]
        | cons third rest => rw [under_single_cons, if_neg hsecond]
    · have hother : first :: second :: rest ≠ key.path :=
        fun hsame => hfirst (List.cons.inj hsame).1
      rw [if_neg hfirst, if_neg hother]
      exact ⟨fun place hplace => (List.not_mem_nil hplace).elim, rfl⟩

end Table

/-- The environment gives contents to settings through the variables of their names, and to no
others. It holds no other spelling of these names, and nothing else that stands on the way to a
setting or below one. -/
structure Variable.Assigns (environment : Environment) (assignment : Assignment) : Prop where
  /-- A variable that leads to a setting has its very name. -/
  spelled : ∀ variable_ ∈ environment, ∀ key : Key, path? variable_.1 = some key.path →
    variable_.1 = key.variable
  /-- A variable that leads elsewhere does not lead to a place above a setting or below it. -/
  apart : ∀ variable_ ∈ environment, ∀ path ∈ path? variable_.1, ∀ key : Key,
    path <+: key.path ∨ key.path <+: path → path = key.path
  /-- The text of a setting's variable says what is assigned. -/
  fits : ∀ (key : Key) (text : String), (key.variable, text) ∈ environment →
    ∃ content, assignment key = some content ∧ key.Means (readValue text) content
  /-- Every setting that is assigned has its variable. -/
  given : ∀ (key : Key) (content : key.Content), assignment key = some content →
    ∃ text, (key.variable, text) ∈ environment

namespace Variable

variable {environment : Environment} {assignment : Assignment}

/-- The values that a variable has for settings say what is assigned. -/
theorem Assigns.agrees_table (h : Assigns environment assignment) {variable_ : String × String}
    (hmem : variable_ ∈ environment) : (table variable_).Agrees assignment := by
  intro key place hplace
  rw [table] at hplace
  split at hplace
  · rename_i path hpath
    obtain ⟨htables, hinside⟩ :=
      Table.inside_single (readValue variable_.2) (h.apart variable_ hmem path hpath key)
    obtain ⟨inner, rfl⟩ := htables place hplace
    refine ⟨inner, rfl, fun value hvalue => ?_⟩
    have hvalue : value ∈
        (Table.single path (readValue variable_.2)).inside key.sectionName key.name :=
      List.mem_flatMap.mpr ⟨_, hplace, hvalue⟩
    rw [hinside] at hvalue
    split at hvalue
    · rename_i hsame
      have hname := h.spelled variable_ hmem key (hsame ▸ hpath)
      rw [List.mem_singleton.mp hvalue]
      exact h.fits key variable_.2 (hname ▸ hmem)
    · cases hvalue
  · cases hplace

/-- The variable of a setting has a value for it. -/
theorem inside_table_variable (key : Key) (text : String) :
    (table (key.variable, text)).inside key.sectionName key.name = [readValue text] := by
  have hapart : key.path <+: key.path ∨ key.path <+: key.path → key.path = key.path := fun _ => rfl
  have hinside := (Table.inside_single (readValue text) hapart).2
  rw [if_pos rfl] at hinside
  rw [table, key.path?_variable]
  exact hinside

/-- One more variable is laid over the table of those before. -/
theorem tableOf_append_singleton (rest : Environment) (variable_ : String × String) :
    tableOf (rest ++ [variable_]) = Table.layer (tableOf rest) (table variable_) := by
  rw [tableOf, List.foldl_append]
  rfl

/-- Some of the variables make a table whose values say what is assigned, and in which the settings
have a value that are given by one of them. -/
theorem Assigns.agrees_tableOf (h : Assigns environment assignment) {rest : Environment}
    (hrest : rest ⊆ environment) : (tableOf rest).Agrees assignment ∧
      ∀ (key : Key) (text : String), (key.variable, text) ∈ rest →
        Table.given? (tableOf rest) key ≠ none := by
  -- From the end, because every variable is laid over the table of those in front of it.
  induction rest using List.reverseRecOn with
  | nil => exact ⟨fun _ _ hplace => (List.not_mem_nil hplace).elim,
      fun _ _ hmem => (List.not_mem_nil hmem).elim⟩
  | append_singleton rest last ih =>
    obtain ⟨hbefore, hgiven⟩ := ih fun _ hmem => hrest (List.mem_append_left _ hmem)
    have hlast : (table last).Agrees assignment :=
      h.agrees_table (hrest (List.mem_append_right _ List.mem_cons_self))
    rw [tableOf_append_singleton]
    refine ⟨hbefore.layer hlast, fun key text hmem => ?_⟩
    refine (Table.picks_given?_layer key (hbefore.isSection key) hlast).2.ne_none ?_
    rcases List.mem_append.mp hmem with hmem | hmem
    · exact .inr (hgiven key text hmem)
    · rw [← List.mem_singleton.mp hmem, inside_table_variable]
      exact .inl (List.cons_ne_nil _ _)

/-- The table of an environment assigns what its variables say. -/
theorem Assigns.tableOf (h : Assigns environment assignment) :
    (tableOf environment).Assigns assignment := by
  obtain ⟨hagrees, hgiven⟩ := h.agrees_tableOf (List.Subset.refl environment)
  refine ⟨hagrees, fun key content hcontent => ?_⟩
  obtain ⟨text, hmem⟩ := h.given key content hcontent
  exact Table.inside_ne_nil_of_given? (hgiven key text hmem)

end Variable

end Bindery.Settings
