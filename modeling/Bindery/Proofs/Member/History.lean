import Bindery.Proofs.Member.Table
import Mathlib.Data.Finset.Card

/-!
# Tables and the histories they come from

What a table holds is settled by the recordings that led to it: which names it lists and in which
order, where each of them stands, and which kind each of them has. `Reflects` says so of a table and
a history. One more recording tells the kind that it leaves behind, and touches no other name.
-/

namespace Bindery.KindTable

variable {table : KindTable} {name other : String} {kind : MemberKind}
  {calls : List (String × MemberKind)}

/-- What a table holds after a history of recordings. -/
structure Reflects (table : KindTable) (calls : List (String × MemberKind)) : Prop where
  /-- It lists the recorded names, each where it was first recorded. -/
  names_eq : table.names = (calls.map (·.1)).eraseDups
  /-- No name is listed twice. -/
  nodup : table.names.Nodup
  /-- A position is kept for each listed name and for no other, and it is the place of its entry. -/
  positions : ∀ (name : String) (i : Nat),
    table.positions[name]? = some i ↔ table.names[i]? = some name
  /-- Every position is one of an entry. -/
  lt_size : ∀ (name : String) (i : Nat), table.positions[name]? = some i → i < table.entries.size
  /-- The size is the number of different names. -/
  size_eq : table.size = (calls.map (·.1)).toFinset.card
  /-- The kind that is found for a name is the one that is listed with it. -/
  get?_iff : ∀ (name : String) (kind : MemberKind),
    table.get? name = some kind ↔ (name, kind) ∈ table.toList
  /-- Only for a name that was never recorded nothing is found. -/
  get?_eq_none_iff : ∀ name : String, table.get? name = none ↔ name ∉ calls.map (·.1)
  /-- The kind of a name is settled by the kinds recorded for it. -/
  get?_eq : ∀ name ∈ calls.map (·.1), table.get? name = some (.ofRecorded (kindsFor calls name))

/-- The entry of a name is found at its position. -/
theorem InStep.get?_eq_of_position (h : table.InStep) {i : Nat}
    (hi : table.positions[name]? = some i) : ∃ entry, table.entries[i]? = some entry ∧
      entry.1 = name ∧ table.get? name = some entry.2 := by
  have hname := (h.positions name i).mp hi
  rw [names, toList, List.getElem?_map, Array.getElem?_toList, Option.map_eq_some_iff] at hname
  obtain ⟨entry, hentry, rfl⟩ := hname
  refine ⟨entry, hentry, rfl, ?_⟩
  rw [get?, hi]
  simp [hentry]

/-- There is an entry at each position. -/
theorem InStep.lt_size_of_position (h : table.InStep) {i : Nat}
    (hi : table.positions[name]? = some i) : i < table.entries.size := by
  obtain ⟨entry, hentry, -⟩ := h.get?_eq_of_position hi
  exact (Array.getElem?_eq_some_iff.mp hentry).1

/-- Nothing is found only for a name that is not listed. -/
theorem InStep.get?_eq_none_iff (h : table.InStep) :
    table.get? name = none ↔ name ∉ table.names := by
  rw [← h.isSome_get?_iff, Option.not_isSome_iff_eq_none]

/-- A recording leaves other names where they are. -/
theorem position_record_of_ne (table : KindTable) (hother : other ≠ name) (kind : MemberKind) :
    (table.record name kind).positions[other]? = table.positions[other]? := by
  rw [record]
  split
  · rfl
  · rw [Std.TreeMap.getElem?_insert, if_neg]
    intro hcompare
    exact hother (Std.LawfulEqOrd.eq_of_compare hcompare).symm

/-- A recording leaves a name that has a position where it is. -/
theorem position_record_of_some (table : KindTable) (kind : MemberKind) {i : Nat}
    (hi : table.positions[name]? = some i) :
    (table.record name kind).positions[name]? = some i := by
  rw [record, hi]
  exact hi

/-- A recording leaves the kinds of other names as they are. -/
theorem InStep.get?_record_of_ne (h : table.InStep) (hother : other ≠ name) (kind : MemberKind) :
    (table.record name kind).get? other = table.get? other := by
  refine Option.ext fun found => ?_
  rw [(h.record name kind).get?_eq_some_iff, h.get?_eq_some_iff]
  by_cases hname : name ∈ table.names
  · rw [h.toList_record_of_mem hname, List.mem_map]
    constructor
    · rintro ⟨entry, hentry, heq⟩
      obtain ⟨rfl, rfl⟩ := Prod.mk.inj heq
      rwa [if_neg hother]
    · intro hmem
      exact ⟨(other, found), hmem, by rw [if_neg hother]⟩
  · rw [h.toList_record_of_not_mem hname, List.mem_append, List.mem_singleton, Prod.mk.injEq]
    exact or_iff_left fun hnew => hother hnew.1

/-- A recording leaves its name with the kind that it tells. -/
theorem InStep.get?_record_self (h : table.InStep) (name : String) (kind : MemberKind) :
    (table.record name kind).get? name = table.kindAfter? name kind ∧
      (table.kindAfter? name kind).isSome = true := by
  rw [kindAfter?]
  cases hi : table.positions[name]? with
  | none =>
    have hname : name ∉ table.names := fun hmem => by
      obtain ⟨i, hsome⟩ := h.exists_position hmem
      rw [hi] at hsome
      cases hsome
    refine ⟨(h.record name kind).get?_eq_some_iff.mpr ?_, rfl⟩
    rw [h.toList_record_of_not_mem hname]
    exact List.mem_append_right _ List.mem_cons_self
  | some i =>
    obtain ⟨entry, hentry, rfl, -⟩ := h.get?_eq_of_position hi
    simp only [hentry, Option.map_some, Option.isSome_some, and_true]
    refine (h.record entry.1 kind).get?_eq_some_iff.mpr ?_
    have hmem : entry ∈ table.toList := by
      rw [toList, Array.mem_toList_iff]
      exact Array.mem_of_getElem? hentry
    rw [h.toList_record_of_mem (List.mem_map_of_mem hmem), List.mem_map]
    exact ⟨entry, hmem, by rw [if_pos rfl]⟩

/-- Every table reflects the history that led to it. -/
theorem reflects_ofCalls (calls : List (String × MemberKind)) : (ofCalls calls).Reflects calls := by
  have hstep := inStep_ofCalls calls
  have hnames := names_ofCalls calls
  have hmem (name : String) : name ∈ (ofCalls calls).names ↔ name ∈ calls.map (·.1) := by
    rw [hnames, List.mem_eraseDups]
  have hsame : (ofCalls calls).names.toFinset = (calls.map (·.1)).toFinset := by
    ext name
    rw [List.mem_toFinset, List.mem_toFinset, hmem]
  refine ⟨hnames, hstep.nodup, hstep.positions, fun _ _ => hstep.lt_size_of_position, ?_,
    fun _ _ => hstep.get?_eq_some_iff, fun name => ?_, fun name hname => ?_⟩
  · rw [← hsame, List.toFinset_card_of_nodup hstep.nodup, names, toList, List.length_map,
      Array.length_toList, size]
  · rw [hstep.get?_eq_none_iff, hmem]
  · rw [hstep.get?_eq_some_iff, toList_ofCalls, List.mem_map]
    exact ⟨name, List.mem_eraseDups.mpr hname, rfl⟩

/-- A name that has become ambiguous remains so. -/
theorem get?_ofCalls_append_of_ambiguous (later : List (String × MemberKind))
    (h : (ofCalls calls).get? name = some .ambiguous) :
    (ofCalls (calls ++ later)).get? name = some .ambiguous := by
  induction later using List.reverseRecOn with
  | nil => rwa [List.append_nil]
  | append_singleton later call ih =>
    have hstep := inStep_ofCalls (calls ++ later)
    rw [← List.append_assoc, ofCalls_append_singleton]
    by_cases hname : name = call.1
    · subst hname
      have hnames := hstep.isSome_get?_iff.mp (Option.isSome_of_eq_some ih)
      obtain ⟨i, hi⟩ := hstep.exists_position hnames
      obtain ⟨entry, hentry, -, hget⟩ := hstep.get?_eq_of_position hi
      rw [ih, Option.some_inj] at hget
      rw [(hstep.get?_record_self call.1 call.2).1, kindAfter?, hi]
      simp [hentry, ← hget, MemberKind.merge]
    · rwa [hstep.get?_record_of_ne hname]

/-- A table reflects its history. One more recording finds the entry of its name if there is one,
and tells the kind that is found for the name from then on; the name keeps its position, and all
other names keep theirs and their kinds. What has become ambiguous remains so. -/
theorem reflects_ofCalls_record (calls : List (String × MemberKind)) :
    (ofCalls calls).Reflects calls ∧
      (∀ (name : String) (kind : MemberKind),
        ((ofCalls calls).kindAfter? name kind).isSome = true ∧
          ((ofCalls calls).record name kind).get? name = (ofCalls calls).kindAfter? name kind ∧
          (∀ i, (ofCalls calls).positions[name]? = some i →
            ((ofCalls calls).record name kind).positions[name]? = some i) ∧
          ∀ other, other ≠ name →
            ((ofCalls calls).record name kind).get? other = (ofCalls calls).get? other ∧
              ((ofCalls calls).record name kind).positions[other]? =
                (ofCalls calls).positions[other]?) ∧
      ∀ (name : String) (later : List (String × MemberKind)),
        (ofCalls calls).get? name = some .ambiguous →
          (ofCalls (calls ++ later)).get? name = some .ambiguous := by
  have hstep := inStep_ofCalls calls
  refine ⟨reflects_ofCalls calls, fun name kind => ?_, fun name later =>
    get?_ofCalls_append_of_ambiguous later⟩
  obtain ⟨hself, hsome⟩ := hstep.get?_record_self name kind
  exact ⟨hsome, hself, fun _ => position_record_of_some _ kind, fun other hother =>
    ⟨hstep.get?_record_of_ne hother kind, position_record_of_ne _ hother kind⟩⟩

end Bindery.KindTable
