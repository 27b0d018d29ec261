import Bindery.Proofs.Binding.Numbering
import Bindery.Proofs.Binding.Questions
import Bindery.Proofs.Binding.Spelled
import Bindery.Proofs.Document.RoundTrip
import Bindery.Proofs.Scope.Ids

/-!
# What is registered

Namespaces, enumerations and classes are selected by comparing contexts with ids, among the nodes at
the top. Where ids are distinct, this settles which statements the generated code has and in which
order, that no node is registered twice, and that the names in the statements are those of the
namespaces under which they stand.
-/

namespace Bindery.TranslationUnit

open Binding
open Markup.Document (declaration)

variable {unit : TranslationUnit} {n scope : NodeId} {options : Options} {base : Option Path}

/-- The first namespace at the top that is named `::`. -/
def rootNamespace? (unit : TranslationUnit) : Option NodeId :=
  unit.top.find? fun n => (unit.node n).kind == .nameSpace && (unit.node n).name? == some "::"

/-- The namespaces that are bound: those at the top that stand in the global one and have one of
the given names. -/
def boundNamespaces (unit : TranslationUnit) (options : Options) : List NodeId :=
  match unit.rootNamespace? with
  | none => []
  | some root =>
    unit.top.filter fun n => (unit.node n).kind == .nameSpace && unit.standsIn n root &&
      options.namespaces.contains (unit.node n).name

/-- The nodes that are registered for a namespace: its enumerations, then those of its classes that
have a name for it and come from the file asked for. -/
def registered (unit : TranslationUnit) (base : Option Path) (options : Options) (scope : NodeId) :
    List NodeId :=
  (unit.top.filter fun n => (unit.node n).kind == .enumeration && unit.standsIn n scope) ++
    unit.top.filter fun n => (unit.node n).kind.isClassLike && unit.standsIn n scope &&
      isBindable (unit.node n).name? && unit.isInFile base options n

/-- All nodes that are registered, in the order of their statements. -/
def allRegistered (unit : TranslationUnit) (base : Option Path) (options : Options) : List NodeId :=
  (unit.boundNamespaces options).flatMap (unit.registered base options)

/-- The statement registers a node of a namespace under its full name, with the template for what
the node declares. -/
structure Registers (unit : TranslationUnit) (scope n : NodeId) (statement : Statement) : Prop where
  /-- The name is built of the names of the namespace and of the node. -/
  qualified : statement.qualified = "::" ++ (unit.node scope).name ++ "::" ++ (unit.node n).name
  /-- Enumerations have a template of their own, classes one of the two others. -/
  template : statement.template =
    if (unit.node n).kind = .enumeration then .enumeration
    else if (unit.members n).isPlainData then .plainData else .object

/-- The block has the name of the namespace and registers its nodes, one by one and in order. -/
def MadeFor (unit : TranslationUnit) (base : Option Path) (options : Options) (scope : NodeId)
    (block : Block) : Prop :=
  block.name = (unit.node scope).name ∧
    List.Forall₂ (unit.Registers scope) (unit.registered base options scope) block.statements

/-- The namespaces that are selected are those that are bound. -/
theorem selectedNamespaces_eq (unit : TranslationUnit) (options : Options) :
    unit.selectedNamespaces options = unit.boundNamespaces options := by
  have hroot : unit.globalNamespace? = unit.rootNamespace? := rfl
  unfold selectedNamespaces topNamespaces boundNamespaces globalId?
  rw [hroot]
  cases unit.rootNamespace? with
  | none => rfl
  | some root =>
    cases hid : (unit.node root).id? with
    | none => simp [standsIn, hid]
    | some id => simp [standsIn, hid, declaredIn, List.filter_filter, Bool.and_comm, Bool.and_assoc]

/-- The drafts of the classes of a namespace that are not left out. -/
theorem boundClasses_namespaceDraft (unit : TranslationUnit) (base : Option Path)
    (options : Options) (scope : NodeId) :
    (unit.namespaceDraft base options scope).boundClasses =
      ((unit.classesIn scope).filter (unit.isBoundClass base options)).map
        (unit.classDraft options) := by
  rw [NamespaceDraft.boundClasses, namespaceDraft, List.filterMap_map, ← List.filterMap_eq_map,
    ← List.filterMap_eq_filter, List.filterMap_filterMap]
  refine List.filterMap_congr fun n _ => ?_
  cases hbound : unit.isBoundClass base options n with
  | true => simp [classOutcome, hbound, ClassOutcome.draft?, Option.guard]
  | false => simp [classOutcome, hbound, ClassOutcome.draft?, Option.guard]

/-- The nodes that are registered for a namespace, in terms of what is declared in it. -/
theorem registered_eq (unit : TranslationUnit) (base : Option Path) (options : Options)
    (scope : NodeId) :
    unit.registered base options scope = unit.enumerationsIn scope ++
      (unit.classesIn scope).filter (unit.isBoundClass base options) := by
  rw [enumerationsIn, classesIn, membersOf_eq, membersOf_eq, List.filter_filter, registered]
  refine congrArg _ (List.filter_congr fun n _ => ?_)
  rw [isBoundClass, Bool.and_comm (_ && _) (_ && _), Bool.and_assoc]

/-- What is known of a bound namespace: it stands in the first global one. -/
theorem exists_root_of_mem_boundNamespaces (h : scope ∈ unit.boundNamespaces options) :
    ∃ root, unit.rootNamespace? = some root ∧ unit.standsIn scope root = true ∧
      (unit.node scope).name ∈ options.namespaces := by
  unfold boundNamespaces at h
  cases hroot : unit.rootNamespace? with
  | none => rw [hroot] at h; cases h
  | some root =>
    rw [hroot] at h
    have hscope := (List.mem_filter.mp h).2
    simp only [Bool.and_eq_true, List.contains_iff_mem] at hscope
    exact ⟨root, rfl, hscope.1.2, hscope.2⟩

/-- The first global namespace is one. -/
theorem isGlobal_of_rootNamespace? {root : NodeId} (h : unit.rootNamespace? = some root) :
    unit.isGlobal root = true :=
  List.find?_some h

/-- A namespace with a name that may be selected is not the global one. -/
theorem isGlobal_eq_false_of_name
    (hnames : ∀ name ∈ options.namespaces, name ≠ "" ∧ ¬"::".toList <:+: name.toList)
    (hname : (unit.node scope).name ∈ options.namespaces) : unit.isGlobal scope = false := by
  refine Bool.eq_false_iff.mpr fun hglobal => ?_
  rw [isGlobal, Node.isGlobalNamespace, Bool.and_eq_true, beq_iff_eq, beq_iff_eq] at hglobal
  have hcolons : (unit.node scope).name = "::" := by rw [Node.name, hglobal.2]; rfl
  rw [hcolons] at hname
  exact (hnames "::" hname).2 List.infix_rfl

/-- A registered node stands in its namespace, and is an enumeration or a class. -/
theorem standsIn_of_mem_registered (h : n ∈ unit.registered base options scope) :
    n ∈ unit.top ∧ unit.standsIn n scope = true ∧
      ((unit.node n).kind = .enumeration ∨ (unit.node n).kind.isClassLike = true) := by
  rcases List.mem_append.mp h with hmem | hmem
  · obtain ⟨htop, hn⟩ := List.mem_filter.mp hmem
    rw [Bool.and_eq_true, beq_iff_eq] at hn
    exact ⟨htop, hn.2, .inl hn.1⟩
  · obtain ⟨htop, hn⟩ := List.mem_filter.mp hmem
    simp only [Bool.and_eq_true] at hn
    exact ⟨htop, hn.1.1.2, .inr hn.1.1.1⟩

/-- Where ids are distinct, what stands in a namespace below the global one is named by the
namespace's name and its own. -/
theorem scopedName_of_standsIn (hids : unit.DistinctIds) {root : NodeId}
    (hroot : unit.isGlobal root = true) (hbelow : unit.standsIn scope root = true)
    (hscope : unit.isGlobal scope = false) (hin : unit.standsIn n scope = true)
    (hn : unit.isGlobal n = false) :
    unit.scopedName n = "::" ++ (unit.node scope).name ++ "::" ++ (unit.node n).name := by
  have houter : unit.scope? scope = none := by rw [hids.scope?_of_standsIn hbelow, if_pos hroot]
  have hinner : unit.InScope n scope := by
    rw [InScope, hids.scope?_of_standsIn hin, if_neg (by simp [hscope])]
  have hpass : unit.Passes n scope := .single hinner
  rw [scopedName_of_inScope hn (not_onCircle_of_passes hpass houter) hinner,
    scopedName_of_scope?_eq_none hscope houter]

/-- An enumeration or a class is not the global namespace. -/
theorem isGlobal_eq_false_of_kind
    (h : (unit.node n).kind = .enumeration ∨ (unit.node n).kind.isClassLike = true) :
    unit.isGlobal n = false := by
  rw [isGlobal, Node.isGlobalNamespace]
  cases hkind : (unit.node n).kind <;> simp_all [NodeKind.isClassLike]

/-- What is made of the draft of an enumeration registers it. -/
theorem registers_of_enumeration {statement : Statement}
    (hqualified : unit.scopedName n = "::" ++ (unit.node scope).name ++ "::" ++ (unit.node n).name)
    (hkind : (unit.node n).kind = .enumeration)
    (hmade : (unit.enumerationDraft n).MadeInto statement) : unit.Registers scope n statement := by
  obtain ⟨number, hstatement⟩ := hmade
  refine ⟨?_, ?_⟩
  · rw [hstatement]
    exact hqualified
  · rw [hstatement, if_pos hkind]

/-- What is made of the draft of a class registers it. -/
theorem registers_of_class {statement : Statement}
    (hqualified : unit.scopedName n = "::" ++ (unit.node scope).name ++ "::" ++ (unit.node n).name)
    (hkind : (unit.node n).kind.isClassLike = true)
    (hmade : (unit.classDraft options n).MadeInto statement) :
    unit.Registers scope n statement := by
  obtain ⟨number, hstatement⟩ := hmade
  have hother : (unit.node n).kind ≠ .enumeration := fun h => by rw [h] at hkind; cases hkind
  refine ⟨?_, ?_⟩
  · rw [hstatement]
    exact hqualified
  · have hmembers : (unit.classDraft options n).members = unit.members n := rfl
    rw [hstatement, if_neg hother, ClassDraft.template, hmembers]

/-- The block that is made for a bound namespace registers its nodes. -/
theorem madeFor_of_madeInto (hids : unit.DistinctIds)
    (hnames : ∀ name ∈ options.namespaces, name ≠ "" ∧ ¬"::".toList <:+: name.toList)
    (hscope : scope ∈ unit.boundNamespaces options) {block : Block}
    (hblock : (unit.namespaceDraft base options scope).MadeInto block) :
    unit.MadeFor base options scope block := by
  obtain ⟨root, hroot, hbelow, hname⟩ := exists_root_of_mem_boundNamespaces hscope
  have hqualified : ∀ n ∈ unit.registered base options scope,
      unit.scopedName n = "::" ++ (unit.node scope).name ++ "::" ++ (unit.node n).name := by
    intro n hn
    obtain ⟨_, hin, hkind⟩ := standsIn_of_mem_registered hn
    exact scopedName_of_standsIn hids (isGlobal_of_rootNamespace? hroot) hbelow
      (isGlobal_eq_false_of_name hnames hname) hin (isGlobal_eq_false_of_kind hkind)
  rw [registered_eq, List.forall_mem_append] at hqualified
  have hkinds : ∀ accept, ∀ n ∈ unit.membersOf scope accept,
      accept (unit.node n).kind = true := by
    intro accept n hn
    rw [membersOf_eq, List.mem_filter, Bool.and_eq_true] at hn
    exact hn.2.1
  obtain ⟨hlabel, enumerations, classes, hstatements, henumerations, hclasses⟩ := hblock
  rw [boundClasses_namespaceDraft] at hclasses
  refine ⟨hlabel, ?_⟩
  rw [registered_eq, hstatements]
  refine List.rel_append ?_ ?_
  · refine forall₂_imp_of_mem (fun n hn statement hmade => ?_)
      (List.forall₂_map_left_iff.mp henumerations)
    have hkind := hkinds (· == .enumeration) n hn
    exact registers_of_enumeration (hqualified.1 n hn) (eq_of_beq hkind) hmade
  · refine forall₂_imp_of_mem (fun n hn statement hmade => ?_)
      (List.forall₂_map_left_iff.mp hclasses)
    have hkind := hkinds NodeKind.isClassLike n (List.mem_of_mem_filter hn)
    exact registers_of_class (hqualified.2 n hn) hkind hmade

/-- No node is registered twice. -/
theorem nodup_allRegistered (hids : unit.DistinctIds) (htop : unit.top.Nodup) (base : Option Path)
    (options : Options) : (unit.allRegistered base options).Nodup := by
  have hbound : (unit.boundNamespaces options).Nodup := by
    unfold boundNamespaces
    split
    · exact .nil
    · exact htop.filter _
  refine List.nodup_flatMap.mpr ⟨fun scope _ => ?_, hbound.imp fun {scope scope'} hne => ?_⟩
  · refine (htop.filter _).append (htop.filter _) fun n hn hn' => ?_
    have henumeration := (List.mem_filter.mp hn).2
    have hclass := (List.mem_filter.mp hn').2
    simp only [Bool.and_eq_true, beq_iff_eq] at henumeration hclass
    rw [henumeration.1] at hclass
    cases hclass.1.1.1
  · intro n hn hn'
    have hin := (standsIn_of_mem_registered hn).2.1
    have hin' := (standsIn_of_mem_registered hn').2.1
    exact hne (hids.standsIn_unique hin hin')

/-- A registered node stands in a namespace that is directly below the first global one and has one
of the given names, and in no other node. -/
theorem unique_scope_of_mem_allRegistered (hids : unit.DistinctIds)
    (hn : n ∈ unit.allRegistered base options) (hin : unit.standsIn n scope = true) :
    ∃ root, unit.rootNamespace? = some root ∧ unit.standsIn scope root = true ∧
      (unit.node scope).name ∈ options.namespaces := by
  obtain ⟨bound, hbound, hregistered⟩ := List.mem_flatMap.mp hn
  obtain rfl := hids.standsIn_unique (standsIn_of_mem_registered hregistered).2.1 hin
  exact exists_root_of_mem_boundNamespaces hbound

/-- What is generated registers the selected declarations exactly, in order, once each and under
their full names. The body has a block for each bound namespace, with the comment line that names
it and the statements for its enumerations and then its classes, all in document order. It is empty
if no global namespace with an id stands at the top. Nothing is registered that stands in a global
namespace, or in a namespace that is not one of the given ones directly below the first global
one. -/
theorem generate_registers {text : String} (htext : ofText text = .ok unit)
    (hids : unit.DistinctIds) (options : Options)
    (hnames : ∀ name ∈ options.namespaces, name ≠ "" ∧ ¬"::".toList <:+: name.toList)
    (base : Option Path) (file : Path) (counter : Counter) (journal : Array Log.Notice)
    (asked : List Question) :
    ∃ blocks : List Block,
      ((unit.generate base file options counter).run (unit.sessionAfter journal asked)).1.1.code =
        "static void\n" ++ (options.functionPrefix ++ fileIdentifier file) ++ "()\n\x7b\n" ++
          String.join (blocks.map fun block => "  // namespace " ++ block.name ++ "\n" ++
            String.join (block.statements.map Statement.spelled)) ++ "\x7d\n" ∧
      List.Forall₂ (unit.MadeFor base options) (unit.boundNamespaces options) blocks ∧
      ((∀ root id, unit.rootNamespace? = some root → (unit.node root).id? ≠ some id) →
        blocks = []) ∧
      (unit.allRegistered base options).Nodup ∧
      ∀ n ∈ unit.allRegistered base options,
        (∀ root, unit.isGlobal root = true → unit.standsIn n root = false) ∧
        ∀ scope, unit.standsIn n scope = true → ∃ root, unit.rootNamespace? = some root ∧
          unit.standsIn scope root = true ∧ (unit.node scope).name ∈ options.namespaces := by
  have hanswer := (answers_generate unit base file options counter _
    (sound_sessionAfter unit journal asked)).1
  have hdrafts : unit.drafts base options =
      (unit.boundNamespaces options).map (unit.namespaceDraft base options) := by
    rw [drafts, selectedNamespaces_eq]
  rw [hdrafts] at hanswer
  have hmade := madeInto_ofDrafts options file
    ((unit.boundNamespaces options).map (unit.namespaceDraft base options)) counter
  rw [List.forall₂_map_left_iff] at hmade
  have hcode (generated : Generated) : generated.code = generated.listing.spelled :=
    generated.listing.render_eq_spelled
  refine ⟨_, by rw [hanswer, hcode]; rfl, ?_, ?_, ?_, ?_⟩
  · exact forall₂_imp_of_mem
      (fun scope hscope block => madeFor_of_madeInto hids hnames hscope) hmade
  · intro hnone
    have hempty : unit.boundNamespaces options = [] := by
      refine List.eq_nil_iff_forall_not_mem.mpr fun scope hscope => ?_
      obtain ⟨root, hroot, hbelow, _⟩ := exists_root_of_mem_boundNamespaces hscope
      obtain ⟨id, hid, _⟩ := exists_id_of_standsIn hbelow
      exact hnone root id hroot hid
    rw [hempty] at hmade ⊢
    exact List.forall₂_nil_left_iff.mp hmade
  · obtain ⟨elements, rfl, -⟩ := exists_elements htext
    exact nodup_allRegistered hids (nodup_top_arena elements) base options
  · intro n hn
    refine ⟨fun root hroot => ?_, fun scope => unique_scope_of_mem_allRegistered hids hn⟩
    refine Bool.eq_false_iff.mpr fun hin => ?_
    obtain ⟨_, _, _, hname⟩ := unique_scope_of_mem_allRegistered hids hn hin
    rw [isGlobal_eq_false_of_name hnames hname] at hroot
    cases hroot

/-- A namespace with an enumeration and a structure, and a structure outside of it. -/
def smallDocument : Markup.Document :=
  .flat [declaration "Namespace" "_1" "::" "", declaration "Enumeration" "_2" "E" "_3",
    declaration "Namespace" "_3" "a" "_1", declaration "Struct" "_4" "S" "_3",
    declaration "Struct" "_5" "T" "_1"]

/-- The lines of code that are generated for the small document. -/
def smallCode : List String :=
  ["static void\n", "bind_a_hh()\n", "\x7b\n", "  // namespace a\n",
    "  ::Jsonipc::Enum< ::a::E > enum_1001;\n", "  enum_1001\n", "    ;\n",
    "  ::Jsonipc::Class< ::a::S > class_1002;\n", "\x7d\n"]

/-- In the small document, the enumeration and the structure of the namespace are registered. -/
theorem generate_registers_smallDocument :
    let unit := arena smallDocument.elements
    let options : Options := ⟨["a"], none, "bind_"⟩
    ((unit.generate (some ⟨"/"⟩) ⟨"a.hh"⟩ options ⟨1001⟩).run (unit.sessionAfter #[] [])).1.1.code =
      String.join smallCode ∧
    (∃ blocks : List Block, String.join smallCode = "static void\nbind_a_hh()\n\x7b\n" ++
        String.join (blocks.map fun block => "  // namespace " ++ block.name ++ "\n" ++
          String.join (block.statements.map Statement.spelled)) ++ "\x7d\n" ∧
      List.Forall₂ (unit.MadeFor (some ⟨"/"⟩) options) [2] blocks) ∧
    unit.allRegistered (some ⟨"/"⟩) options = [1, 3] := by
  intro unit options
  obtain ⟨blocks, hcode, hblocks, _⟩ := generate_registers (ofText_text smallDocument (by decide))
    (distinctIds_of_nodup (by decide)) options (by decide) (some ⟨"/"⟩) ⟨"a.hh"⟩ ⟨1001⟩ #[] []
  have hlines : ((unit.generate (some ⟨"/"⟩) ⟨"a.hh"⟩ options ⟨1001⟩).run
      (unit.sessionAfter #[] [])).1.1.code = String.join smallCode := by
    decide +kernel
  have hhead : "static void\n" ++ (options.functionPrefix ++ fileIdentifier ⟨"a.hh"⟩) ++
      "()\n\x7b\n" = "static void\nbind_a_hh()\n\x7b\n" := by
    decide +kernel
  have hbound : unit.boundNamespaces options = [2] := by decide
  rw [hbound] at hblocks
  rw [hhead] at hcode
  exact ⟨hlines, ⟨blocks, hlines.symm.trans hcode, hblocks⟩, by decide⟩

end Bindery.TranslationUnit
