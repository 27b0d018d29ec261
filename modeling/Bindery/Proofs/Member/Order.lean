import Bindery.Proofs.Binding.Questions
import Bindery.Proofs.Member.Members
import Bindery.Proofs.Scope.Ids

/-!
# The order of members

A class lists its members in some order. The tables that come out list names in the order in which
they are first met, and that is all that the order of the list settles. Which names there are, what
kind each of them has, and how the class is registered stay the same in any order, since an overload
set has its kind as a set.
-/

namespace Bindery

/-- The kind that a name has after all its recordings does not depend on their order. -/
theorem MemberKind.ofRecorded_eq_of_perm {kinds kinds' : List MemberKind}
    (h : kinds.Perm kinds') : ofRecorded kinds = ofRecorded kinds' := by
  induction h with
  | nil => rfl
  | @cons kind rest rest' hrest _ =>
    match rest, rest', hrest.length_eq with
    | [], [], _ => rfl
    | [last], [last'], _ => rw [List.singleton_perm_singleton.mp hrest]
    | _ :: _ :: _, _ :: _ :: _, _ => simp [ofRecorded]
  | swap first second rest =>
    cases rest with
    | nil => cases first <;> cases second <;> rfl
    | cons third rest => simp [ofRecorded]
  | trans _ _ ih ih' => exact ih.trans ih'

namespace KindTable

variable {table table' : KindTable} {name : String}

/-- A table in step that lists names with their kinds finds these kinds, and nothing else. -/
theorem InStep.get?_eq_ite (h : table.InStep) {names : List String} {kind : String → MemberKind}
    (hlist : table.toList = names.map fun name => (name, kind name)) (name : String) :
    table.get? name = if name ∈ names then some (kind name) else none := by
  refine Option.ext fun found => ?_
  rw [h.get?_eq_some_iff, hlist, List.mem_map]
  simp only [Prod.mk.injEq, Option.ite_none_right_eq_some, Option.some.injEq]
  constructor
  · rintro ⟨_, hname, rfl, hkind⟩
    exact ⟨hname, hkind⟩
  · rintro ⟨hname, hkind⟩
    exact ⟨name, hname, rfl, hkind⟩

/-- Two tables in step in which the same is found for every name list the same entries. -/
theorem InStep.perm_toList (h : table.InStep) (h' : table'.InStep)
    (hget : ∀ name, table'.get? name = table.get? name) : table'.toList.Perm table.toList := by
  rw [List.perm_ext_iff_of_nodup h'.nodup.of_map h.nodup.of_map]
  rintro ⟨name, kind⟩
  rw [← h'.get?_eq_some_iff, ← h.get?_eq_some_iff, hget]

end KindTable

namespace TranslationUnit

variable {unit unit' : TranslationUnit}

/-- The second unit differs from the first at most in the order in which its classes list their
members. -/
structure Relisted (unit unit' : TranslationUnit) : Prop where
  /-- The nodes are of the same kinds. -/
  kind : ∀ n, (unit'.node n).kind = (unit.node n).kind
  /-- They have the same nodes nested in them. -/
  children : ∀ n, (unit'.node n).children = (unit.node n).children
  /-- They agree in all attributes but one. -/
  attribute? : ∀ n key, key ≠ "members" →
    (unit'.node n).attribute? key = (unit.node n).attribute? key
  /-- In that one they list the same ids, each as often. -/
  members : ∀ n, ((unit'.node n).idList "members").Perm ((unit.node n).idList "members")

namespace Relisted

variable (h : Relisted unit unit')
include h

/-- Nodes have the same names. -/
theorem name?_eq (n : NodeId) : (unit'.node n).name? = (unit.node n).name? :=
  h.attribute? n "name" (by decide)

/-- Ids lead to the same nodes. -/
theorem byId?_eq (id : String) : unit'.byId? id = unit.byId? id := by
  have hid (n : NodeId) : (unit'.node n).id? = (unit.node n).id? := h.attribute? n "id" (by decide)
  refine Option.ext fun n => ?_
  rw [byId?_eq_some_iff, byId?_eq_some_iff]
  simp only [hid]
  constructor
  · rintro ⟨-, hn, hfirst⟩
    exact ⟨lt_size_of_id? hn, hn, hfirst⟩
  · rintro ⟨-, hn, hfirst⟩
    exact ⟨lt_size_of_id? ((hid n).trans hn), hn, hfirst⟩

/-- The same nodes may be bound as members. -/
theorem isVisibleOf_eq (kind : NodeKind) (n : NodeId) :
    unit'.isVisibleOf kind n = unit.isVisibleOf kind n := by
  rw [isVisibleOf, isVisibleOf, Node.isVisible, Node.isVisible, Node.access, Node.access,
    Node.isStatic, Node.isStatic, h.name?_eq, h.kind, h.attribute? n "access" (by decide),
    h.attribute? n "static" (by decide)]

/-- Methods have the same kinds. -/
theorem methodKind_eq (n : NodeId) : unit'.methodKind n = unit.methodKind n := by
  have hvoid : unit'.returnsVoid n = unit.returnsVoid n := by
    simp only [returnsVoid, byIdOfKind?, h.byId?_eq, h.kind, h.name?_eq,
      h.attribute? n "returns" (by decide)]
  have hcount : unit'.argumentCount n = unit.argumentCount n := by
    simp only [argumentCount, childrenOfKind, h.children, h.kind]
  rw [methodKind, methodKind, hvoid, hcount, Node.isConst, Node.isConst,
    h.attribute? n "const" (by decide)]

/-- A class lists the same nodes, each as often. -/
theorem perm_memberNodes (n : NodeId) : (unit'.memberNodes n).Perm (unit.memberNodes n) := by
  rw [memberNodes, memberNodes, funext h.byId?_eq]
  exact (h.members n).filterMap _

/-- A class has the same members of a kind that may be bound. -/
theorem perm_filter_isVisibleOf (kind : NodeKind) (n : NodeId) :
    ((unit'.memberNodes n).filter (unit'.isVisibleOf kind)).Perm
      ((unit.memberNodes n).filter (unit.isVisibleOf kind)) := by
  rw [funext (h.isVisibleOf_eq kind)]
  exact (h.perm_memberNodes n).filter _

/-- Nodes that are permuted have the same names. -/
theorem mem_distinctNames_iff {nodes nodes' : List NodeId} (hperm : nodes'.Perm nodes)
    (name : String) : name ∈ unit'.distinctNames nodes' ↔ name ∈ unit.distinctNames nodes := by
  simp only [mem_distinctNames, hperm.mem_iff, Node.name, h.name?_eq]

/-- An overload set has the same kinds, each as often. -/
theorem perm_overloads (n : NodeId) (name : String) :
    (unit'.overloads n name).Perm (unit.overloads n name) := by
  have hnames : (fun m => (unit'.node m).name == name) = fun m => (unit.node m).name == name := by
    funext m
    rw [Node.name, Node.name, h.name?_eq]
  rw [overloads, overloads, hnames, funext h.methodKind_eq]
  exact ((h.perm_filter_isVisibleOf .method n).filter _).map _

end Relisted

/-- The table of data members is in step. -/
theorem inStep_fields_members (unit : TranslationUnit) (n : NodeId) :
    (unit.members n).fields.InStep :=
  (unit.fields_foldl_recordMember (unit.memberNodes n)).1

/-- The table of methods is in step. -/
theorem inStep_methods_members (unit : TranslationUnit) (n : NodeId) :
    (unit.members n).methods.InStep := by
  rw [methods_members]
  exact KindTable.inStep_ofCalls _

/-- What is found for the name of a data member. -/
theorem get?_fields_members (unit : TranslationUnit) (n : NodeId) (name : String) :
    (unit.members n).fields.get? name =
      if name ∈ unit.fieldNames n then some .data else none :=
  (unit.inStep_fields_members n).get?_eq_ite (unit.toList_fields_members n) name

/-- What is found for the name of a method. -/
theorem get?_methods_members (unit : TranslationUnit) (n : NodeId) (name : String) :
    (unit.members n).methods.get? name =
      if name ∈ unit.methodNames n then some (.ofRecorded (unit.overloads n name)) else none :=
  (unit.inStep_methods_members n).get?_eq_ite (unit.toList_methods_members n) name

/-- Two results of sorting out the members of a class that differ in the order of names alone. -/
structure SameMembers (members members' : Members) : Prop where
  /-- Data members are found alike. -/
  fields : ∀ name, members'.fields.get? name = members.fields.get? name
  /-- Methods are found alike. -/
  methods : ∀ name, members'.methods.get? name = members.methods.get? name
  /-- The same data members are listed. -/
  fieldEntries : members'.fields.toList.Perm members.fields.toList
  /-- The same methods are listed. -/
  methodEntries : members'.methods.toList.Perm members.methods.toList
  /-- The same names of methods are left out as ambiguous. -/
  ambiguous : members'.ambiguous.Perm members.ambiguous
  /-- The class is registered in the same way. -/
  isPlainData : members'.isPlainData = members.isPlainData

/-- Where members are listed in another order, they are sorted out alike. -/
theorem Relisted.sameMembers (h : Relisted unit unit') (n : NodeId) :
    SameMembers (unit.members n) (unit'.members n) := by
  have hfields (name : String) :
      (unit'.members n).fields.get? name = (unit.members n).fields.get? name := by
    rw [get?_fields_members, get?_fields_members]
    refine if_congr ?_ rfl rfl
    exact h.mem_distinctNames_iff (h.perm_filter_isVisibleOf .field n) name
  have hmethods (name : String) :
      (unit'.members n).methods.get? name = (unit.members n).methods.get? name := by
    rw [get?_methods_members, get?_methods_members,
      MemberKind.ofRecorded_eq_of_perm (h.perm_overloads n name)]
    refine if_congr ?_ rfl rfl
    exact h.mem_distinctNames_iff (h.perm_filter_isVisibleOf .method n) name
  have hfieldEntries := (unit.inStep_fields_members n).perm_toList
    (unit'.inStep_fields_members n) hfields
  have hmethodEntries := (unit.inStep_methods_members n).perm_toList
    (unit'.inStep_methods_members n) hmethods
  have hempty (table : KindTable) : table.isEmpty = table.toList.isEmpty := by
    rw [KindTable.isEmpty, KindTable.toList, Array.isEmpty_toList]
  have hambiguous : (unit'.members n).ambiguous.Perm (unit.members n).ambiguous := by
    rw [Members.ambiguous, Members.ambiguous, KindTable.namesOf, KindTable.namesOf]
    exact (hmethodEntries.filter _).map _
  refine ⟨hfields, hmethods, hfieldEntries, hmethodEntries, hambiguous, ?_⟩
  rw [Members.isPlainData, Members.isPlainData, hempty, hempty, hempty, hempty,
    hfieldEntries.isEmpty_eq, hmethodEntries.isEmpty_eq]

/-- Whatever was asked before, the members of a class are sorted out as follows. Among the nodes
that its ids lead to, only the data members and methods that may be bound count. The distinct names
of the data members are listed in the order in which they are first met. So are those of the
methods, each with a kind: a method that shares its name with no other has its own kind, a getter
and a setter that share a name make an accessor, and any other methods that share one are
ambiguous. In whatever order classes list their members, the same is found for every name, the same
names are ambiguous, and classes are registered in the same way. -/
theorem classify_eq_of_listed (unit : TranslationUnit) (n : NodeId)
    (journal : Array Log.Notice) (asked : List Question) :
    let members := ((unit.classify n).run (unit.sessionAfter journal asked)).1
    members.fields.toList = (unit.fieldNames n).map (fun name => (name, .data)) ∧
      members.methods.toList =
        (unit.methodNames n).map (fun name => (name, .ofRecorded (unit.overloads n name))) ∧
      ∀ unit', Relisted unit unit' → ∀ (journal' : Array Log.Notice) (asked' : List Question),
        SameMembers members ((unit'.classify n).run (unit'.sessionAfter journal' asked')).1 := by
  rw [(answers_classify unit n _ (sound_sessionAfter unit journal asked)).1]
  refine ⟨unit.toList_fields_members n, unit.toList_methods_members n, ?_⟩
  intro unit' hrelisted journal' asked'
  rw [(answers_classify unit' n _ (sound_sessionAfter unit' journal' asked')).1]
  exact hrelisted.sameMembers n

/-- A class that lists the given ids: a data member, a getter and a setter of one name, and three
methods of another. -/
def sharedNames (listed : String) : TranslationUnit where
  nodes := #[⟨.classType, [("id", "_1"), ("members", listed)], []⟩,
    ⟨.field, [("id", "_2"), ("name", "x")], []⟩,
    ⟨.method, [("id", "_3"), ("name", "f"), ("const", "1")], []⟩,
    ⟨.method, [("id", "_4"), ("name", "f"), ("returns", "_8")], [8]⟩,
    ⟨.method, [("id", "_5"), ("name", "g"), ("const", "1")], []⟩,
    ⟨.method, [("id", "_6"), ("name", "g"), ("returns", "_8")], [9]⟩,
    ⟨.method, [("id", "_7"), ("name", "g")], []⟩,
    ⟨.fundamentalType, [("id", "_8"), ("name", "void")], []⟩,
    ⟨.argument, [], []⟩, ⟨.argument, [], []⟩]
  top := [0, 1, 2, 3, 4, 5, 6, 7]

/-- Any two orders of the same ids make units that differ in the order of members alone. -/
theorem relisted_sharedNames {listed listed' : String}
    (h : (Text.words listed'.toList).Perm (Text.words listed.toList)) :
    Relisted (sharedNames listed) (sharedNames listed') := by
  have hother (n : NodeId) : (sharedNames listed').node (n + 1) = (sharedNames listed).node (n + 1) :=
    rfl
  constructor
  case kind =>
    rintro (_ | n)
    · rfl
    · rw [hother]
  case children =>
    rintro (_ | n)
    · rfl
    · rw [hother]
  case attribute? =>
    rintro (_ | n) key hkey
    · have hlist (text : String) : ((sharedNames text).node 0).attribute? key =
          [("id", "_1"), ("members", text)].lookup key := rfl
      rw [hlist, hlist, List.lookup_cons, List.lookup_cons, List.lookup_cons, List.lookup_cons,
        beq_false_of_ne hkey]
    · rw [hother]
  case members =>
    rintro (_ | n)
    · exact h.map String.ofList
    · rw [hother]

/-- The names of methods are found in another order when the class lists its members backwards, but
with the same kinds. -/
theorem classify_sharedNames :
    let found (listed : String) :=
      (((sharedNames listed).classify 0).run ((sharedNames listed).sessionAfter #[] [])).1
    SameMembers (found "_2 _3 _4 _5 _404 _6 _7") (found "_7 _6 _404 _5 _4 _3 _2") ∧
      (found "_2 _3 _4 _5 _404 _6 _7").methods.toList = [("f", .accessor), ("g", .ambiguous)] ∧
      (found "_7 _6 _404 _5 _4 _3 _2").methods.toList = [("g", .ambiguous), ("f", .accessor)] := by
  obtain ⟨-, hmethods, hsame⟩ :=
    classify_eq_of_listed (sharedNames "_2 _3 _4 _5 _404 _6 _7") 0 #[] []
  obtain ⟨-, hmethods', -⟩ :=
    classify_eq_of_listed (sharedNames "_7 _6 _404 _5 _4 _3 _2") 0 #[] []
  exact ⟨hsame _ (relisted_sharedNames (by decide)) #[] [], hmethods.trans (by decide),
    hmethods'.trans (by decide)⟩

end TranslationUnit

end Bindery
