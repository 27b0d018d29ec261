import Bindery.Member.KindTable
import Mathlib.Data.List.Induction

/-!
# What a table of member kinds holds

A table keeps its names twice: in the list of entries, and with their positions. `InStep` says that
the two agree. It holds of every table that recordings lead to, and it makes the table a list in
which a recording either appends an entry or merges a kind in place. From this follows which kind
the recordings of a name leave behind.
-/

namespace Bindery

/-- The kind that a name has after all its recordings. A getter and a setter make an accessor, and a
name that is recorded once keeps its kind. -/
def MemberKind.ofRecorded : List MemberKind → MemberKind
  | [kind] => kind
  | [.getter, .setter] => .accessor
  | [.setter, .getter] => .accessor
  | _ => .ambiguous

/-- One more recording merges its kind into the one left behind by those before it. -/
theorem MemberKind.ofRecorded_append_singleton {kinds : List MemberKind} (hkinds : kinds ≠ [])
    (kind : MemberKind) : ofRecorded (kinds ++ [kind]) = (ofRecorded kinds).merge kind := by
  match kinds with
  | [first] => cases first <;> cases kind <;> rfl
  | [first, second] => cases first <;> cases second <;> rfl
  | first :: second :: third :: rest => cases first <;> cases second <;> rfl

namespace KindTable

variable {table : KindTable} {name : String} {kind : MemberKind} {i : Nat}

/-- The recorded names, in the order of first recording. -/
def names (table : KindTable) : List String :=
  table.toList.map (·.1)

/-- The position that is found for a name is that of its entry, and no name has two entries. -/
structure InStep (table : KindTable) : Prop where
  /-- No name has two entries. -/
  nodup : table.names.Nodup
  /-- Positions lead to the names. -/
  positions : ∀ (name : String) (i : Nat),
    table.positions[name]? = some i ↔ table.names[i]? = some name

/-- The empty table is in step. -/
theorem inStep_empty : empty.InStep where
  nodup := .nil
  positions name i := by simp [empty, names, toList]

/-- A name has a position if it was recorded. -/
theorem InStep.exists_position (h : table.InStep) (hname : name ∈ table.names) :
    ∃ i, table.positions[name]? = some i := by
  obtain ⟨i, hi⟩ := List.getElem?_of_mem hname
  exact ⟨i, (h.positions name i).mpr hi⟩

/-- A name that was not recorded has no position. -/
theorem InStep.position_eq_none (h : table.InStep) (hname : name ∉ table.names) :
    table.positions[name]? = none := by
  refine Option.eq_none_iff_forall_ne_some.mpr fun i hi => hname ?_
  exact List.mem_of_getElem? ((h.positions name i).mp hi)

/-- Looking up a name finds the kind of its entry. -/
theorem InStep.get?_eq_some_iff (h : table.InStep) :
    table.get? name = some kind ↔ (name, kind) ∈ table.toList := by
  rw [get?, toList, List.mem_iff_getElem?]
  simp only [Option.bind_eq_bind, Option.bind_eq_some_iff, h.positions, names, toList,
    List.getElem?_map, Option.map_eq_some_iff, Array.getElem?_toList]
  constructor
  · rintro ⟨i, ⟨entry, hentry, rfl⟩, found, hfound, hkind⟩
    obtain rfl := Option.some.inj (hentry.symm.trans hfound)
    obtain rfl := Option.some.inj hkind
    exact ⟨i, hentry⟩
  · rintro ⟨i, hi⟩
    exact ⟨i, ⟨_, hi, rfl⟩, _, hi, rfl⟩

/-- Looking up a name finds something if it was recorded. -/
theorem InStep.isSome_get?_iff (h : table.InStep) :
    (table.get? name).isSome = true ↔ name ∈ table.names := by
  simp only [Option.isSome_iff_exists, h.get?_eq_some_iff, names, List.mem_map, Prod.exists]
  constructor
  · rintro ⟨kind, hmem⟩
    exact ⟨name, kind, hmem, rfl⟩
  · rintro ⟨_, kind, hmem, rfl⟩
    exact ⟨kind, hmem⟩

/-- Recording a known name merges the kind into that of its entry. -/
theorem InStep.toList_record_of_mem (h : table.InStep) (hname : name ∈ table.names)
    (kind : MemberKind) :
    (table.record name kind).toList =
      table.toList.map fun entry =>
        (entry.1, if entry.1 = name then entry.2.merge kind else entry.2) := by
  obtain ⟨i, hi⟩ := h.exists_position hname
  rw [record, hi, toList, Array.toList_modify]
  refine List.ext_getElem? fun j => ?_
  rw [List.getElem?_modify, List.getElem?_map, Option.map_eq_map, toList]
  cases hentry : table.entries.toList[j]? with
  | none => rfl
  | some entry =>
    have hj : table.names[j]? = some entry.1 := by
      rw [names, toList, List.getElem?_map, hentry]
      rfl
    have hplace : i = j ↔ entry.1 = name := by
      have hposition := h.positions name j
      rw [hi, hj, Option.some_inj, Option.some_inj] at hposition
      exact hposition
    by_cases hsame : entry.1 = name <;> simp [hsame, hplace]

/-- Recording a new name appends an entry. -/
theorem InStep.toList_record_of_not_mem (h : table.InStep) (hname : name ∉ table.names)
    (kind : MemberKind) : (table.record name kind).toList = table.toList ++ [(name, kind)] := by
  rw [record, h.position_eq_none hname, toList, Array.toList_push, toList]

/-- Recording a known name leaves the names as they are. -/
theorem InStep.names_record_of_mem (h : table.InStep) (hname : name ∈ table.names)
    (kind : MemberKind) : (table.record name kind).names = table.names := by
  rw [names, h.toList_record_of_mem hname, List.map_map, names]
  rfl

/-- Recording a new name puts it behind the others. -/
theorem InStep.names_record_of_not_mem (h : table.InStep) (hname : name ∉ table.names)
    (kind : MemberKind) : (table.record name kind).names = table.names ++ [name] := by
  rw [names, h.toList_record_of_not_mem hname, List.map_append, names]
  rfl

/-- Recording keeps a table in step. -/
theorem InStep.record (h : table.InStep) (name : String) (kind : MemberKind) :
    (table.record name kind).InStep := by
  by_cases hname : name ∈ table.names
  · obtain ⟨i, hi⟩ := h.exists_position hname
    have hpositions : (table.record name kind).positions = table.positions := by
      rw [KindTable.record, hi]
    constructor
    · rw [h.names_record_of_mem hname]
      exact h.nodup
    · rw [h.names_record_of_mem hname, hpositions]
      exact h.positions
  · have hpositions : (table.record name kind).positions =
        table.positions.insert name table.names.length := by
      rw [KindTable.record, h.position_eq_none hname, names, toList, List.length_map,
        Array.length_toList]
    constructor
    · rw [h.names_record_of_not_mem hname]
      refine List.nodup_append.mpr ⟨h.nodup, List.pairwise_singleton _ name, ?_⟩
      rintro known hknown _ hnew rfl
      rw [List.mem_singleton] at hnew
      exact hname (hnew ▸ hknown)
    · intro other i
      rw [hpositions, h.names_record_of_not_mem hname, Std.TreeMap.getElem?_insert]
      by_cases hother : name = other
      · subst hother
        grind
      · have hold := h.positions other i
        grind

/-- The table that a history of recordings leads to. -/
def ofCalls (calls : List (String × MemberKind)) : KindTable :=
  calls.foldl (fun table call => table.record call.1 call.2) empty

/-- The kinds recorded for a name, in order. -/
def kindsFor (calls : List (String × MemberKind)) (name : String) : List MemberKind :=
  (calls.filter (·.1 == name)).map (·.2)

/-- A name has no kinds only if it was never recorded. -/
theorem kindsFor_eq_nil_iff {calls : List (String × MemberKind)} :
    kindsFor calls name = [] ↔ name ∉ calls.map (·.1) := by
  rw [kindsFor, List.map_eq_nil_iff, List.filter_eq_nil_iff, List.mem_map]
  simp only [beq_iff_eq, not_exists, not_and]

/-- The kinds recorded for a name after one more recording. -/
theorem kindsFor_append_singleton (calls : List (String × MemberKind)) (call : String × MemberKind)
    (name : String) :
    kindsFor (calls ++ [call]) name =
      if call.1 = name then kindsFor calls name ++ [call.2] else kindsFor calls name := by
  by_cases hname : call.1 = name <;> simp [kindsFor, List.filter_append, hname]

/-- One more recording after a history. -/
theorem ofCalls_append_singleton (calls : List (String × MemberKind)) (call : String × MemberKind) :
    ofCalls (calls ++ [call]) = (ofCalls calls).record call.1 call.2 := by
  rw [ofCalls, List.foldl_append, ofCalls]
  rfl

/-- Every table that recordings lead to is in step. -/
theorem inStep_ofCalls (calls : List (String × MemberKind)) : (ofCalls calls).InStep := by
  induction calls using List.reverseRecOn with
  | nil => exact inStep_empty
  | append_singleton calls call ih =>
    rw [ofCalls_append_singleton]
    exact ih.record call.1 call.2

/-- One more name at the end of a list is the last of the distinct ones, unless it is there. -/
theorem eraseDups_append_singleton (names : List String) (name : String) :
    (names ++ [name]).eraseDups =
      if name ∈ names then names.eraseDups else names.eraseDups ++ [name] := by
  rw [List.eraseDups_append]
  by_cases hname : name ∈ names <;> simp [List.removeAll, List.eraseDups_cons, hname]

/-- The names of a table are the distinct recorded ones, in the order of first recording. -/
theorem names_ofCalls (calls : List (String × MemberKind)) :
    (ofCalls calls).names = (calls.map (·.1)).eraseDups := by
  induction calls using List.reverseRecOn with
  | nil => rfl
  | append_singleton calls call ih =>
    rw [ofCalls_append_singleton, List.map_append, List.map_singleton, eraseDups_append_singleton]
    split
    next hknown =>
      rw [← List.mem_eraseDups, ← ih] at hknown
      rw [(inStep_ofCalls calls).names_record_of_mem hknown, ih]
    next hnew =>
      rw [← List.mem_eraseDups, ← ih] at hnew
      rw [(inStep_ofCalls calls).names_record_of_not_mem hnew, ih]

/-- Each name of a table has the kind that its recordings leave behind. -/
theorem toList_ofCalls (calls : List (String × MemberKind)) :
    (ofCalls calls).toList =
      (calls.map (·.1)).eraseDups.map fun name => (name, .ofRecorded (kindsFor calls name)) := by
  induction calls using List.reverseRecOn with
  | nil => rfl
  | append_singleton calls call ih =>
    have hmem : call.1 ∈ (ofCalls calls).names ↔ call.1 ∈ calls.map (·.1) := by
      rw [names_ofCalls, List.mem_eraseDups]
    rw [ofCalls_append_singleton, List.map_append, List.map_singleton, eraseDups_append_singleton]
    split
    next hknown =>
      rw [(inStep_ofCalls calls).toList_record_of_mem (hmem.mpr hknown), ih, List.map_map]
      refine List.map_congr_left fun name hname => ?_
      rw [kindsFor_append_singleton]
      by_cases hsame : call.1 = name
      · subst hsame
        have hkinds : kindsFor calls call.1 ≠ [] := fun h => kindsFor_eq_nil_iff.mp h hknown
        simp [MemberKind.ofRecorded_append_singleton hkinds]
      · simp [hsame, Ne.symm hsame]
    next hnew =>
      rw [(inStep_ofCalls calls).toList_record_of_not_mem (fun h => hnew (hmem.mp h)), ih,
        List.map_append]
      congr 1
      · refine List.map_congr_left fun name hname => ?_
        have hother : call.1 ≠ name := fun h => hnew (h ▸ List.mem_eraseDups.mp hname)
        rw [kindsFor_append_singleton, if_neg hother]
      · have hfirst : kindsFor calls call.1 = [] := kindsFor_eq_nil_iff.mpr hnew
        simp [kindsFor_append_singleton, hfirst, MemberKind.ofRecorded]

end KindTable

end Bindery
