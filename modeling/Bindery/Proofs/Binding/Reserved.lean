import Bindery.Proofs.Binding.Tally

/-!
# Reserved names

A name that begins or ends with an underscore is reserved, and a declaration may have an empty name
or none. Classes, bases and members with such names are left out, each where it is looked up. For
enumerations there is no such test: an enumeration of a selected namespace is registered whatever
its name is.
-/

namespace Bindery

namespace Binding

/-- A name that may stand in bindings: it is there, is not empty, and has no underscore at either
end. -/
structure IsProper (name? : Option String) : Prop where
  /-- There is a name. -/
  present : ∃ name, name? = some name
  /-- It is not empty. -/
  nonempty : name? ≠ some ""
  /-- It does not begin with an underscore. -/
  start : ∀ name, name? = some name → ¬['_'] <+: name.toList
  /-- It does not end with an underscore. -/
  finish : ∀ name, name? = some name → ¬['_'] <:+ name.toList

/-- A name is reserved if an underscore stands at one of its ends. -/
theorem isReserved_iff (name : String) :
    isReserved name = true ↔ ['_'] <+: name.toList ∨ ['_'] <:+ name.toList := by
  rw [isReserved, Bool.or_eq_true, beq_iff_eq, beq_iff_eq, List.singleton_prefix_iff_head?_eq_some,
    List.singleton_suffix_iff_getLast?_eq_some]

/-- The test for names tells whether a name may stand in bindings. -/
theorem isBindable_iff {name? : Option String} : isBindable name? = true ↔ IsProper name? := by
  cases name? with
  | none =>
    constructor
    · intro h
      cases h
    · rintro ⟨⟨_, hname⟩, -, -, -⟩
      cases hname
  | some name =>
    have hempty : name.isEmpty = true ↔ name = "" := String.isEmpty_iff
    rw [isBindable, Bool.and_eq_true, Bool.not_eq_true', Bool.not_eq_true', Bool.eq_false_iff,
      Bool.eq_false_iff, Ne, Ne, hempty, isReserved_iff, not_or]
    constructor
    · rintro ⟨hsome, hstart, hfinish⟩
      refine ⟨⟨name, rfl⟩, fun h => hsome (Option.some.inj h), ?_, ?_⟩
      · rintro _ ⟨⟩
        exact hstart
      · rintro _ ⟨⟩
        exact hfinish
    · rintro ⟨-, hsome, hstart, hfinish⟩
      exact ⟨fun h => hsome (congrArg some h), hstart name rfl, hfinish name rfl⟩

/-- The statements of a listing that register enumerations. -/
def Listing.enumerationStatements (listing : Listing) : List Statement :=
  (listing.blocks.flatMap Block.statements).filter (·.template == .enumeration)

/-- The statements of a listing are made of the enumerations and of the registered classes of its
drafts, one by one and in order. -/
theorem forall₂_statements_ofDrafts (options : Options) (file : Path)
    (drafts : List NamespaceDraft) (counter : Counter) :
    let listing := ((Generated.ofDrafts options file drafts).run counter).1.listing
    List.Forall₂ EnumerationDraft.MadeInto (drafts.flatMap NamespaceDraft.enumerations)
        listing.enumerationStatements ∧
      List.Forall₂ ClassDraft.MadeInto (drafts.flatMap NamespaceDraft.boundClasses)
        listing.classStatements := by
  have hmade := madeInto_ofDrafts options file drafts counter
  constructor
  · rw [Listing.enumerationStatements, List.filter_flatMap]
    exact List.rel_flatMap hmade fun _ _ h => h.forall₂_filter.2.1
  · rw [Listing.classStatements, List.filter_flatMap]
    exact List.rel_flatMap hmade fun _ _ h => h.forall₂_filter.2.2

end Binding

namespace TranslationUnit

open Binding

variable {unit : TranslationUnit} {options : Options} {base : Option Path} {file : Path}
    {n : NodeId}

/-- The enumerations of the selected namespaces, in the order of their statements. -/
def enumerationNodes (unit : TranslationUnit) (options : Options) : List NodeId :=
  (unit.selectedNamespaces options).flatMap unit.enumerationsIn

/-- What a directive in the statement for a class names, is named properly: a base, which is one of
the bases that the class lists, or a member. No values stand there. -/
def NamesProperly (unit : TranslationUnit) (n : NodeId) : Directive → Prop
  | .inherit base =>
    ∃ b ∈ unit.baseNodes n, base = unit.scopedName b ∧ IsProper (unit.node b).name?
  | .member name => IsProper (some name)
  | .accessor name => IsProper (some name)
  | .value _ => False

/-- The statement registers a class with a proper name, and names nothing else. -/
structure BindsClass (unit : TranslationUnit) (n : NodeId) (statement : Statement) : Prop where
  /-- The class stands under its qualified name. -/
  qualified : statement.qualified = unit.scopedName n
  /-- Its own name is proper. -/
  proper : IsProper (unit.node n).name?
  /-- The names of bases and members are proper. -/
  directives : ∀ directive ∈ statement.directives, unit.NamesProperly n directive

/-- The statement registers an enumeration with a proper name. -/
structure BindsEnumeration (unit : TranslationUnit) (n : NodeId) (statement : Statement) :
    Prop where
  /-- The enumeration stands under its qualified name. -/
  qualified : statement.qualified = unit.scopedName n
  /-- Its own name is proper. -/
  proper : IsProper (unit.node n).name?

/-- Every statement of a listing registers an enumeration or a class of the unit, and what is named
in it is named properly. -/
structure ProperlyBound (unit : TranslationUnit) (base : Option Path) (options : Options)
    (listing : Listing) : Prop where
  /-- The statements for enumerations. -/
  enumerations :
    List.Forall₂ unit.BindsEnumeration (unit.enumerationNodes options) listing.enumerationStatements
  /-- The statements for classes. -/
  classes :
    List.Forall₂ unit.BindsClass (unit.boundClassNodes base options) listing.classStatements

/-- The name of a visible member is proper. -/
theorem isProper_of_mem_distinctNames {kind : NodeKind} {name : String}
    (h : name ∈ unit.distinctNames ((unit.memberNodes n).filter (unit.isVisibleOf kind))) :
    IsProper (some name) := by
  obtain ⟨m, hm, rfl⟩ := mem_distinctNames.mp h
  have hvisible : (unit.node m).isVisible = true := by
    have hof := (List.mem_filter.mp hm).2
    rw [isVisibleOf, Bool.and_eq_true] at hof
    exact hof.1
  rw [Node.isVisible, Bool.and_eq_true] at hvisible
  have hproper := isBindable_iff.mp hvisible.2
  obtain ⟨name, hname⟩ := hproper.present
  rw [hname] at hproper
  rwa [Node.name, hname]

/-- Data members that are registered have proper names. -/
theorem isProper_of_mem_fields {entry : String × MemberKind}
    (h : entry ∈ (unit.members n).fields.toList) : IsProper (some entry.1) := by
  rw [toList_fields_members] at h
  obtain ⟨name, hname, rfl⟩ := List.mem_map.mp h
  exact isProper_of_mem_distinctNames hname

/-- Methods that are recorded have proper names. -/
theorem isProper_of_mem_methods {entry : String × MemberKind}
    (h : entry ∈ (unit.members n).methods.toList) : IsProper (some entry.1) := by
  rw [toList_methods_members] at h
  obtain ⟨name, hname, rfl⟩ := List.mem_map.mp h
  exact isProper_of_mem_distinctNames hname

/-- A directive for a method is about the name that it is recorded under. -/
theorem namesProperly_of_methodDirective? {entry : String × MemberKind} {directive : Directive}
    (hproper : IsProper (some entry.1)) (h : methodDirective? entry = some directive) :
    unit.NamesProperly n directive := by
  obtain ⟨name, kind⟩ := entry
  cases kind with
  | ambiguous => cases h
  | _ =>
    obtain rfl := Option.some.inj h
    exact hproper

/-- The bases that are registered for a class are among those it lists, and have proper names. -/
theorem exists_base_of_mem_bases {name : String} (h : name ∈ (unit.classDraft options n).bases) :
    ∃ b ∈ unit.baseNodes n, name = unit.scopedName b ∧ IsProper (unit.node b).name? := by
  rw [classDraft] at h
  split at h
  · cases h
  · obtain ⟨b, hb, rfl⟩ := List.mem_map.mp h
    obtain ⟨hlisted, hbound⟩ := List.mem_filter.mp hb
    rw [isBoundBase, Bool.and_eq_true] at hbound
    exact ⟨b, hlisted, rfl, isBindable_iff.mp hbound.1⟩

/-- What the directives for a class name, is named properly. -/
theorem namesProperly_of_mem_directives {directive : Directive}
    (h : directive ∈ (unit.classDraft options n).directives) : unit.NamesProperly n directive := by
  rw [ClassDraft.directives, List.mem_append, List.mem_append] at h
  rcases h with (hbase | hfield) | hmethod
  · obtain ⟨name, hname, rfl⟩ := List.mem_map.mp hbase
    exact exists_base_of_mem_bases hname
  · obtain ⟨entry, hentry, rfl⟩ := List.mem_map.mp hfield
    exact isProper_of_mem_fields hentry
  · obtain ⟨entry, hentry, hdirective⟩ := List.mem_filterMap.mp hmethod
    exact namesProperly_of_methodDirective? (isProper_of_mem_methods hentry) hdirective

/-- A class is registered only if its name is proper. -/
theorem isProper_of_mem_boundClassNodes (h : n ∈ unit.boundClassNodes base options) :
    IsProper (unit.node n).name? := by
  obtain ⟨scope, -, hn⟩ := List.mem_flatMap.mp h
  have hbound := (List.mem_filter.mp hn).2
  rw [isBoundClass, Bool.and_eq_true] at hbound
  exact isBindable_iff.mp hbound.1

/-- The statements for classes name nothing improper. -/
theorem bindsClass_ofDrafts (unit : TranslationUnit) (base : Option Path) (file : Path)
    (options : Options) (counter : Counter) :
    List.Forall₂ unit.BindsClass (unit.boundClassNodes base options)
      ((Generated.ofDrafts options file (unit.drafts base options)).run
        counter).1.listing.classStatements := by
  have hmade := (forall₂_statements_ofDrafts options file (unit.drafts base options) counter).2
  rw [boundClasses_drafts, List.forall₂_map_left_iff] at hmade
  refine forall₂_imp_of_mem (fun n hn statement hstatement => ?_) hmade
  obtain ⟨number, rfl⟩ := hstatement
  exact ⟨rfl, isProper_of_mem_boundClassNodes hn, fun _ => namesProperly_of_mem_directives⟩

/-- The statements for enumerations stand under the names of all enumerations. -/
theorem enumerationStatements_ofDrafts (unit : TranslationUnit) (base : Option Path) (file : Path)
    (options : Options) (counter : Counter) :
    List.Forall₂ (fun n statement => statement.qualified = unit.scopedName n)
      (unit.enumerationNodes options)
      ((Generated.ofDrafts options file (unit.drafts base options)).run
        counter).1.listing.enumerationStatements := by
  have hdrafts : (unit.drafts base options).flatMap NamespaceDraft.enumerations =
      (unit.enumerationNodes options).map unit.enumerationDraft := by
    rw [drafts, List.flatMap_map, enumerationNodes, List.map_flatMap]
    rfl
  have hmade := (forall₂_statements_ofDrafts options file (unit.drafts base options) counter).1
  rw [hdrafts, List.forall₂_map_left_iff] at hmade
  refine hmade.imp fun n statement hstatement => ?_
  obtain ⟨number, rfl⟩ := hstatement
  rfl

/-- If all that is bound has a proper name, then so have the enumerations. -/
theorem ProperlyBound.isProper {listing : Listing}
    (h : unit.ProperlyBound base options listing) :
    ∀ n ∈ unit.enumerationNodes options, IsProper (unit.node n).name? :=
  forall_mem_of_forall₂ h.enumerations.flip fun _ _ _ hn => hn.proper

/-- Names of classes, bases and members that reach the bindings are proper. An enumeration reaches
them whatever its name is: all that is bound has a proper name just in case the enumerations of the
selected namespaces have. -/
theorem generate_properlyBound_iff (unit : TranslationUnit) (base : Option Path) (file : Path)
    (options : Options) (counter : Counter) (journal : Array Log.Notice) (asked : List Question) :
    let listing := ((unit.generate base file options counter).run
      (unit.sessionAfter journal asked)).1.1.listing
    List.Forall₂ unit.BindsClass (unit.boundClassNodes base options) listing.classStatements ∧
      List.Forall₂ (fun n statement => statement.qualified = unit.scopedName n)
        (unit.enumerationNodes options) listing.enumerationStatements ∧
      (unit.ProperlyBound base options listing ↔
        ∀ n ∈ unit.enumerationNodes options, IsProper (unit.node n).name?) := by
  rw [(answers_generate unit base file options counter _
    (sound_sessionAfter unit journal asked)).1]
  have hclasses := unit.bindsClass_ofDrafts base file options counter
  have henumerations := unit.enumerationStatements_ofDrafts base file options counter
  refine ⟨hclasses, henumerations, ProperlyBound.isProper, fun hproper => ⟨?_, hclasses⟩⟩
  exact forall₂_imp_of_mem (fun n hn statement hstatement => ⟨hstatement, hproper n hn⟩)
    henumerations

/-- A namespace with a single enumeration, which has the given name or none. -/
def singleEnumeration (name? : Option String) : TranslationUnit where
  nodes := #[⟨.nameSpace, [("id", "_1"), ("name", "::")], []⟩,
    ⟨.nameSpace, [("id", "_2"), ("name", "a"), ("context", "_1")], []⟩,
    ⟨.enumeration, [("id", "_3"), ("context", "_2")] ++ name?.toList.map (("name", ·)), []⟩]
  top := [0, 1, 2]

/-- The enumeration is registered, although not all that is registered has a proper name. -/
def RegistersImproperly (name? : Option String) : Prop :=
  let unit := singleEnumeration name?
  let listing := ((unit.generate (some ⟨"/"⟩) ⟨"k.hh"⟩ ⟨["a"], none, "bind_"⟩ ⟨1001⟩).run
    (unit.sessionAfter #[] [])).1.1.listing
  listing.enumerationStatements.map (·.qualified) = ["::a::" ++ name?.getD ""] ∧
    ¬unit.ProperlyBound (some ⟨"/"⟩) ⟨["a"], none, "bind_"⟩ listing

theorem registersImproperly_of_mem {name? : Option String}
    (hname : name? ∈ [some "_E", some "E_", some "", none]) : RegistersImproperly name? := by
  have hregistered : ∀ name? ∈ [some "_E", some "E_", some "", none],
      2 ∈ (singleEnumeration name?).enumerationNodes ⟨["a"], none, "bind_"⟩ ∧
        isBindable ((singleEnumeration name?).node 2).name? = false := by
    decide
  refine ⟨?_, fun hbound => ?_⟩
  · revert name?
    decide +kernel
  · obtain ⟨henumeration, hname⟩ := hregistered name? hname
    rw [isBindable_iff.mpr (hbound.isProper 2 henumeration)] at hname
    cases hname

/-- An enumeration whose name is reserved, empty or missing is registered like any other. -/
theorem not_properlyBound_singleEnumeration :
    RegistersImproperly (some "_E") ∧ RegistersImproperly (some "E_") ∧
      RegistersImproperly (some "") ∧ RegistersImproperly none :=
  ⟨registersImproperly_of_mem (by decide), registersImproperly_of_mem (by decide),
    registersImproperly_of_mem (by decide), registersImproperly_of_mem (by decide)⟩

end TranslationUnit

end Bindery
