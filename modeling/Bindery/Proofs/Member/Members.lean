import Bindery.Proofs.Binding.Drafts
import Bindery.Proofs.Member.Table

/-!
# The members of a class as lists

The members of a class are found by going through the nodes that it lists, one after the other. What
comes out is settled by the lists of its data members and methods: each name stands once, where it
is first met. A data member needs no more than its name. The methods of one name form an overload
set, and the kinds in that set settle whether the name is registered, and how.
-/

namespace Bindery

/-- A data member does not count for the methods. -/
theorem Members.methods_recordField (members : Members) (name : String) :
    (members.recordField name).methods = members.methods := by
  rw [recordField]
  split <;> rfl

/-- Only the first data member of a name is recorded. -/
theorem Members.fields_recordField {members : Members} (h : members.fields.InStep) (name : String) :
    (members.recordField name).fields =
      if name ∈ members.fields.names then members.fields else members.fields.record name .data := by
  simp only [recordField, h.isSome_get?_iff]
  split <;> rfl

namespace TranslationUnit

variable {unit : TranslationUnit} {n : NodeId}

/-- A node of the given kind that may be bound as a member. -/
def isVisibleOf (unit : TranslationUnit) (kind : NodeKind) (n : NodeId) : Bool :=
  (unit.node n).isVisible && (unit.node n).kind == kind

/-- The data members of a class that may be bound. -/
def visibleFields (unit : TranslationUnit) (n : NodeId) : List NodeId :=
  (unit.memberNodes n).filter (unit.isVisibleOf .field)

/-- The methods of a class that may be bound. -/
def visibleMethods (unit : TranslationUnit) (n : NodeId) : List NodeId :=
  (unit.memberNodes n).filter (unit.isVisibleOf .method)

/-- The distinct names of the given nodes, in the order in which they are first met. -/
def distinctNames (unit : TranslationUnit) (nodes : List NodeId) : List String :=
  (nodes.map fun n => (unit.node n).name).eraseDups

/-- The distinct names of the data members of a class. -/
def fieldNames (unit : TranslationUnit) (n : NodeId) : List String :=
  unit.distinctNames (unit.visibleFields n)

/-- The distinct names of the methods of a class. -/
def methodNames (unit : TranslationUnit) (n : NodeId) : List String :=
  unit.distinctNames (unit.visibleMethods n)

/-- The kinds of the methods of a class that share a name. -/
def overloads (unit : TranslationUnit) (n : NodeId) (name : String) : List MemberKind :=
  ((unit.visibleMethods n).filter fun m => (unit.node m).name == name).map unit.methodKind

/-- The name and kind under which a method is recorded. -/
def methodCall (unit : TranslationUnit) (m : NodeId) : String × MemberKind :=
  ((unit.node m).name, unit.methodKind m)

/-- A name is one of the distinct names if a node has it. -/
theorem mem_distinctNames {nodes : List NodeId} {name : String} :
    name ∈ unit.distinctNames nodes ↔ ∃ n ∈ nodes, (unit.node n).name = name := by
  rw [distinctNames, List.mem_eraseDups, List.mem_map]

/-- One more node adds its name to the distinct ones, unless it is there. -/
theorem distinctNames_append_singleton (unit : TranslationUnit) (nodes : List NodeId)
    (m : NodeId) :
    unit.distinctNames (nodes ++ [m]) =
      if (unit.node m).name ∈ unit.distinctNames nodes then unit.distinctNames nodes
      else unit.distinctNames nodes ++ [(unit.node m).name] := by
  simp only [distinctNames, List.map_append, List.map_cons, List.map_nil, List.mem_eraseDups,
    KindTable.eraseDups_append_singleton]

/-- A node that may not be bound as a member is passed over. -/
theorem recordMember_of_not_isVisible (hvisible : ¬(unit.node n).isVisible = true)
    (members : Members) : unit.recordMember members n = members := by
  simp [recordMember, hvisible]

/-- The data members take notice of one more node if it is a data member that may be bound. -/
theorem fields_recordMember (unit : TranslationUnit) (members : Members) (m : NodeId) :
    (unit.recordMember members m).fields =
      if unit.isVisibleOf .field m then (members.recordField (unit.node m).name).fields
      else members.fields := by
  by_cases hvisible : (unit.node m).isVisible = true
  · simp only [recordMember, isVisibleOf, hvisible, if_true, Bool.true_and]
    cases (unit.node m).kind <;> rfl
  · simp [recordMember_of_not_isVisible hvisible, isVisibleOf, hvisible]

/-- The methods take notice of one more node if it is a method that may be bound. -/
theorem methods_recordMember (unit : TranslationUnit) (members : Members) (m : NodeId) :
    (unit.recordMember members m).methods =
      if unit.isVisibleOf .method m then
        members.methods.record (unit.node m).name (unit.methodKind m)
      else members.methods := by
  by_cases hvisible : (unit.node m).isVisible = true
  · simp only [recordMember, isVisibleOf, hvisible, if_true, Bool.true_and]
    cases (unit.node m).kind with
    | field => exact members.methods_recordField _
    | _ => rfl
  · simp [recordMember_of_not_isVisible hvisible, isVisibleOf, hvisible]

/-- After any list of nodes, the table of data members is in step and lists their distinct names. -/
theorem fields_foldl_recordMember (unit : TranslationUnit) (nodes : List NodeId) :
    (nodes.foldl unit.recordMember .empty).fields.InStep ∧
      (nodes.foldl unit.recordMember .empty).fields.toList =
        (unit.distinctNames (nodes.filter (unit.isVisibleOf .field))).map
          fun name => (name, .data) := by
  induction nodes using List.reverseRecOn with
  | nil => exact ⟨KindTable.inStep_empty, rfl⟩
  | append_singleton nodes m ih =>
    obtain ⟨hstep, hlist⟩ := ih
    have hnames : (nodes.foldl unit.recordMember .empty).fields.names =
        unit.distinctNames (nodes.filter (unit.isVisibleOf .field)) := by
      rw [KindTable.names, hlist, List.map_map]
      exact List.map_id _
    rw [List.foldl_append, List.foldl_cons, List.foldl_nil, fields_recordMember,
      List.filter_append, List.filter_singleton]
    cases unit.isVisibleOf .field m with
    | false =>
      rw [if_neg Bool.false_ne_true, cond_false, List.append_nil]
      exact ⟨hstep, hlist⟩
    | true =>
      rw [if_pos rfl, cond_true, Members.fields_recordField hstep,
        distinctNames_append_singleton, ← hnames]
      split
      next => exact ⟨hstep, hnames ▸ hlist⟩
      next hnew =>
        rw [hstep.toList_record_of_not_mem hnew, List.map_append, hlist, hnames]
        exact ⟨hstep.record _ _, rfl⟩

/-- The table of data members lists their distinct names. -/
theorem toList_fields_members (unit : TranslationUnit) (n : NodeId) :
    (unit.members n).fields.toList = (unit.fieldNames n).map fun name => (name, .data) :=
  (unit.fields_foldl_recordMember (unit.memberNodes n)).2

/-- The table of methods is the one that the methods of the class lead to, in the order in which the
class lists them. -/
theorem methods_members (unit : TranslationUnit) (n : NodeId) :
    (unit.members n).methods = .ofCalls ((unit.visibleMethods n).map unit.methodCall) := by
  have hfold (nodes : List NodeId) (start : Members) :
      (nodes.foldl unit.recordMember start).methods =
        ((nodes.filter (unit.isVisibleOf .method)).map unit.methodCall).foldl
          (fun table call => table.record call.1 call.2) start.methods := by
    induction nodes generalizing start with
    | nil => rfl
    | cons m rest ih =>
      rw [List.foldl_cons, ih, methods_recordMember, List.filter_cons]
      split <;> rfl
  exact hfold (unit.memberNodes n) .empty

/-- The table of methods lists their distinct names, each with the kind that its overload set
has. -/
theorem toList_methods_members (unit : TranslationUnit) (n : NodeId) :
    (unit.members n).methods.toList =
      (unit.methodNames n).map fun name => (name, .ofRecorded (unit.overloads n name)) := by
  have hkinds (name : String) :
      KindTable.kindsFor ((unit.visibleMethods n).map unit.methodCall) name =
        unit.overloads n name := by
    rw [KindTable.kindsFor, List.filter_map, List.map_map]
    rfl
  rw [methods_members, KindTable.toList_ofCalls, List.map_map]
  simp only [hkinds]
  rfl

end TranslationUnit

end Bindery
