import Bindery.Proofs.Binding.Selection

/-!
# What statements register

Apart from its number, a statement is told by the declaration that it registers. An enumeration is
registered with the names of its values, a class with the full names of those of its bases that may
be bound, and with the names of its members.
-/

namespace Bindery.TranslationUnit

open Binding

variable {unit : TranslationUnit} {n scope : NodeId} {options : Options} {base : Option Path}

/-- The statement registers an enumeration with the names of its values. -/
structure ListsEnumeration (unit : TranslationUnit) (n : NodeId) (statement : Statement) :
    Prop where
  /-- The template is the one for enumerations. -/
  template : statement.template = .enumeration
  /-- The name is the full name of the enumeration. -/
  qualified : statement.qualified = unit.scopedName n
  /-- The directives are the values that have a name, in order. -/
  directives : statement.directives =
    ((unit.enumValues n).filterMap fun value => (unit.node value).name?).map .value

/-- What is registered about a class: the bases of one that is not passed by value, then the data
members, and then the methods that can be told apart. Those with a getter and a setter need two
pointers. -/
noncomputable def classDirectives (unit : TranslationUnit) (options : Options) (n : NodeId) :
    List Directive :=
  (if (unit.members n).isPlainData then []
    else (unit.boundBases options.namespaces n).map fun base => .inherit (unit.scopedName base)) ++
  (unit.members n).fields.toList.map (fun field => .member field.1) ++
  (unit.members n).methods.toList.filterMap fun method =>
    if method.2 = .ambiguous then none
    else if method.2 = .accessor then some (.accessor method.1) else some (.member method.1)

/-- The statement registers a class with its bases and members. -/
structure ListsClass (unit : TranslationUnit) (options : Options) (n : NodeId)
    (statement : Statement) : Prop where
  /-- The template tells whether the class is passed by value. -/
  template : statement.template = if (unit.members n).isPlainData then .plainData else .object
  /-- The name is the full name of the class. -/
  qualified : statement.qualified = unit.scopedName n
  /-- The directives are those of the class. -/
  directives : statement.directives = unit.classDirectives options n

/-- The block registers the enumerations of a namespace, and then its classes that may be bound. -/
def ListsNamespace (unit : TranslationUnit) (base : Option Path) (options : Options)
    (scope : NodeId) (block : Block) : Prop :=
  block.name = (unit.node scope).name ∧ ∃ enumerations classes,
    block.statements = enumerations ++ classes ∧
      List.Forall₂ unit.ListsEnumeration (unit.enumerationsIn scope) enumerations ∧
      List.Forall₂ (unit.ListsClass options)
        ((unit.classesIn scope).filter (unit.isBoundClass base options)) classes

/-- What is made of the draft of an enumeration lists it. -/
theorem listsEnumeration_of_madeInto {statement : Statement}
    (h : (unit.enumerationDraft n).MadeInto statement) : unit.ListsEnumeration n statement := by
  obtain ⟨number, hstatement⟩ := h
  constructor <;> rw [hstatement] <;> rfl

/-- The draft of a class has its directives. -/
theorem directives_classDraft (unit : TranslationUnit) (options : Options) (n : NodeId) :
    (unit.classDraft options n).directives = unit.classDirectives options n := by
  have hmembers : (unit.classDraft options n).members = unit.members n := rfl
  have hbases : (unit.classDraft options n).bases.map Directive.inherit =
      if (unit.members n).isPlainData then []
      else (unit.boundBases options.namespaces n).map fun base =>
        .inherit (unit.scopedName base) := by
    rw [classDraft]
    split
    · rfl
    · exact List.map_map
  have hmethod : methodDirective? = fun method : String × MemberKind =>
      if method.2 = .ambiguous then none
      else if method.2 = .accessor then some (.accessor method.1)
      else some (.member method.1) := by
    funext method
    obtain ⟨name, kind⟩ := method
    cases kind <;> rfl
  rw [ClassDraft.directives, hbases, hmembers, hmethod, classDirectives]

/-- What is made of the draft of a class lists it. -/
theorem listsClass_of_madeInto {statement : Statement}
    (h : (unit.classDraft options n).MadeInto statement) :
    unit.ListsClass options n statement := by
  have hmembers : (unit.classDraft options n).members = unit.members n := rfl
  have hqualified : (unit.classDraft options n).qualified = unit.scopedName n := rfl
  obtain ⟨number, hstatement⟩ := h
  constructor <;> rw [hstatement]
  · rw [ClassDraft.template, hmembers]
  · exact hqualified
  · exact unit.directives_classDraft options n

/-- What is made of the draft of a namespace lists it. -/
theorem listsNamespace_of_madeInto {block : Block}
    (h : (unit.namespaceDraft base options scope).MadeInto block) :
    unit.ListsNamespace base options scope block := by
  obtain ⟨hname, enumerations, classes, hstatements, henumerations, hclasses⟩ := h
  rw [boundClasses_namespaceDraft] at hclasses
  refine ⟨hname, enumerations, classes, hstatements, ?_, ?_⟩
  · exact (List.forall₂_map_left_iff.mp henumerations).imp fun _ _ => listsEnumeration_of_madeInto
  · exact (List.forall₂_map_left_iff.mp hclasses).imp fun _ _ => listsClass_of_madeInto

/-- What is generated lists the selected namespaces, in order. -/
theorem listsNamespace_ofDrafts (unit : TranslationUnit) (base : Option Path) (options : Options)
    (file : Path) (counter : Counter) :
    List.Forall₂ (unit.ListsNamespace base options) (unit.selectedNamespaces options)
      ((Generated.ofDrafts options file
        (unit.drafts base options)).run counter).1.listing.blocks := by
  have hmade := madeInto_ofDrafts options file (unit.drafts base options) counter
  rw [drafts, List.forall₂_map_left_iff] at hmade
  exact hmade.imp fun _ _ => listsNamespace_of_madeInto

end Bindery.TranslationUnit
