import Bindery.Proofs.Binding.Tally
import Bindery.Proofs.Path.Absolute
import Bindery.Run.Job

/-!
# Restriction to a file

Restricting what is bound to a file takes classes away and changes nothing else: what is left says
the same, under numbers of its own. A class goes by the canonical path of the file that it is
declared in, so that restrictions to different files share no class, and each class with such a path
is left by the restriction to it.
-/

namespace Bindery

namespace Binding

/-- What a statement says, apart from its number. -/
def Statement.content (statement : Statement) : Template × String × List Directive :=
  (statement.template, statement.qualified, statement.directives)

/-- The statement is numbered: its identifier is the word of its template with some number. -/
def Statement.IsNumbered (statement : Statement) : Prop :=
  ∃ n, statement.identifier = numbered statement.template.word n

/-- The statements of a block that register enumerations. -/
def Block.enumerations (block : Block) : List Statement :=
  block.statements.filter (·.template == .enumeration)

/-- The statements of a block that register classes. -/
def Block.classes (block : Block) : List Statement :=
  block.statements.filter (·.template != .enumeration)

/-- What the statement for an enumeration says. -/
def EnumerationDraft.content (draft : EnumerationDraft) : Template × String × List Directive :=
  (.enumeration, draft.qualified, draft.values.map .value)

/-- What the statement for a class says. -/
def ClassDraft.content (draft : ClassDraft) : Template × String × List Directive :=
  (draft.template, draft.qualified, draft.directives)

/-- What a block is made of: its enumerations, and then its classes. -/
structure NamespaceDraft.Says (draft : NamespaceDraft) (block : Block) : Prop where
  /-- The name of the namespace. -/
  name : block.name = draft.name
  /-- Enumerations come before classes. -/
  statements : block.statements = block.enumerations ++ block.classes
  /-- What is said of the enumerations. -/
  enumerations : block.enumerations.map Statement.content =
    draft.enumerations.map EnumerationDraft.content
  /-- What is said of the classes. -/
  classes : block.classes.map Statement.content = draft.boundClasses.map ClassDraft.content
  /-- All statements are numbered. -/
  numbered : ∀ statement ∈ block.statements, statement.IsNumbered

/-- The block that is made of a draft says what is drafted. -/
theorem NamespaceDraft.MadeInto.says {draft : NamespaceDraft} {block : Block}
    (h : draft.MadeInto block) : draft.Says block := by
  obtain ⟨hstatements, henumerations, hclasses⟩ := h.forall₂_filter
  refine ⟨h.1, hstatements, ?enumerations, ?classes, ?numbered⟩
  case enumerations =>
    exact (map_eq_of_forall₂ henumerations fun hmade => by
      obtain ⟨n, rfl⟩ := hmade
      rfl).symm
  case classes =>
    exact (map_eq_of_forall₂ hclasses fun hmade => by
      obtain ⟨n, rfl⟩ := hmade
      rfl).symm
  case numbered =>
    rw [hstatements, List.forall_mem_append]
    constructor
    · exact forall_mem_of_forall₂ henumerations fun draft _ statement hmade => by
        obtain ⟨n, rfl⟩ := hmade
        exact ⟨n, rfl⟩
    · exact forall_mem_of_forall₂ hclasses fun draft _ statement hmade => by
        obtain ⟨n, rfl⟩ := hmade
        exact ⟨n, rfl⟩

/-- The drafts for a file are said in its blocks. -/
theorem says_ofDrafts (options : Options) (file : Path) (drafts : List NamespaceDraft)
    (counter : Counter) :
    List.Forall₂ NamespaceDraft.Says drafts
      ((Generated.ofDrafts options file drafts).run counter).1.listing.blocks :=
  (madeInto_ofDrafts options file drafts counter).imp fun _ _ => NamespaceDraft.MadeInto.says

/-- The same options, for classes of all files. -/
def Options.unrestricted (options : Options) : Options :=
  { options with restrictTo := none }

/-- The same options, for classes of one file. -/
def Options.restrictedTo (options : Options) (file : Path) : Options :=
  { options with restrictTo := some file }

end Binding

namespace TranslationUnit

open Binding

variable {unit : TranslationUnit} {options : Options} {base : Option Path} {file restriction : Path}
    {n : NodeId}

/-- The declaration comes from the file. -/
def comesFrom (unit : TranslationUnit) (base : Option Path) (file : Path) (n : NodeId) : Bool :=
  (unit.sourceFile? base n).any (·.same file)

/-- What the statement for a class says, whatever file it comes from. -/
noncomputable def classContent (unit : TranslationUnit) (options : Options) (n : NodeId) :
    Template × String × List Directive :=
  (unit.classDraft options n).content

/-- A class is bound under a restriction if it is bound without one and comes from the file. -/
theorem isBoundClass_restrictedTo (unit : TranslationUnit) (base : Option Path) (options : Options)
    (restriction : Path) (n : NodeId) :
    unit.isBoundClass base (options.restrictedTo restriction) n =
      (unit.isBoundClass base options.unrestricted n && unit.comesFrom base restriction n) := by
  have hfile : unit.isInFile base (options.restrictedTo restriction) n =
      unit.comesFrom base restriction n := by
    rw [isInFile, comesFrom]
    cases unit.sourceFile? base n <;> rfl
  rw [isBoundClass, hfile, isBoundClass, isInFile, Options.unrestricted, Bool.and_true]

/-- The classes of a namespace that a restriction leaves. -/
theorem filter_isBoundClass_restrictedTo (unit : TranslationUnit) (base : Option Path)
    (options : Options) (restriction : Path) (nodes : List NodeId) :
    nodes.filter (unit.isBoundClass base (options.restrictedTo restriction)) =
      (nodes.filter (unit.isBoundClass base options.unrestricted)).filter
        (unit.comesFrom base restriction) := by
  rw [List.filter_filter]
  exact List.filter_congr fun n _ => by rw [isBoundClass_restrictedTo, Bool.and_comm]

/-- The classes that a restriction leaves are those of its file. -/
theorem boundClassNodes_restrictedTo (unit : TranslationUnit) (base : Option Path)
    (options : Options) (restriction : Path) :
    unit.boundClassNodes base (options.restrictedTo restriction) =
      (unit.boundClassNodes base options.unrestricted).filter
        (unit.comesFrom base restriction) := by
  rw [boundClassNodes, boundClassNodes, List.filter_flatMap]
  exact List.flatMap_congr fun scope _ =>
    filter_isBoundClass_restrictedTo unit base options restriction _

/-- No class comes from two places. -/
theorem same_of_comesFrom {other : Path} (h : unit.comesFrom base restriction n = true)
    (h' : unit.comesFrom base other n = true) : restriction.same other = true := by
  rw [comesFrom, Option.any_eq_true] at h h'
  obtain ⟨p, hp, hsame⟩ := h
  obtain ⟨p', hp', hsame'⟩ := h'
  obtain rfl := Option.some.inj (hp.symm.trans hp')
  rw [Path.same, beq_iff_eq] at hsame hsame' ⊢
  exact hsame.symm.trans hsame'

/-- A class with the name of a file comes from the place that this name stands for. -/
theorem comesFrom_absolute?_iff {id name : String} {declared : NodeId} {input place : Path}
    (hfile : (unit.node n).attribute? "file" = some id)
    (hdeclared : unit.byIdOfKind? id (· == .file) = some declared)
    (hname : (unit.node declared).name? = some name) (hsome : name ≠ "")
    (hplace : Path.absolute? base input = some place) :
    unit.comesFrom base place n = true ↔ Path.absolute? base ⟨name⟩ = some place := by
  have hsource : unit.sourceFile? base n = Path.absolute? base ⟨name⟩ := by
    simp [sourceFile?, hfile, hdeclared, hname, hsome]
  obtain ⟨directory, rfl⟩ := Path.exists_absolute_of_absolute? hplace
  rw [comesFrom, hsource]
  cases hnamed : Path.absolute? base ⟨name⟩ with
  | none => simp
  | some named =>
    obtain ⟨directory', rfl⟩ := Path.exists_absolute_of_absolute? hnamed
    rw [Option.any_some, Path.same_absolute_iff, Option.some_inj]

/-- What is generated under a restriction, beside what is generated without one. -/
structure Narrows (unit : TranslationUnit) (options : Options) (base : Option Path)
    (restriction : Path) (whole part : Generated) : Prop where
  /-- The function has the same name. -/
  function : part.listing.function = whole.listing.function
  /-- The comments name the same namespaces. -/
  names : part.listing.blocks.map (·.name) = whole.listing.blocks.map (·.name)
  /-- The statements for enumerations say the same. -/
  enumerations : part.listing.blocks.map (·.enumerations.map Statement.content) =
    whole.listing.blocks.map (·.enumerations.map Statement.content)
  /-- The statements for classes say the same of those classes that come from the file. -/
  classes : ∃ nodes : List (List NodeId),
    nodes.flatten = unit.boundClassNodes base options.unrestricted ∧
    whole.listing.blocks.map (·.classes.map Statement.content) =
      nodes.map (·.map (unit.classContent options)) ∧
    part.listing.blocks.map (·.classes.map Statement.content) =
      nodes.map fun own =>
        (own.filter (unit.comesFrom base restriction)).map (unit.classContent options)
  /-- There are no other statements, and only numbers are left out of account. -/
  statements : ∀ made ∈ [whole, part], ∀ block ∈ made.listing.blocks,
    block.statements = block.enumerations ++ block.classes ∧
      ∀ statement ∈ block.statements, statement.IsNumbered
  /-- Each class statement that is missing counts as a class that was left out. -/
  skipped : part.report.skippedClasses + part.listing.classStatements.length =
    whole.report.skippedClasses + whole.listing.classStatements.length

/-- What the blocks for a translation unit say of its classes. -/
theorem classes_ofDrafts (unit : TranslationUnit) (base : Option Path) (file : Path)
    (options : Options) (counter : Counter) :
    ((Generated.ofDrafts options file (unit.drafts base options)).run
        counter).1.listing.blocks.map (·.classes.map Statement.content) =
      (unit.selectedNamespaces options).map fun scope =>
        ((unit.classesIn scope).filter (unit.isBoundClass base options)).map
          (unit.classContent options) := by
  rw [← map_eq_of_forall₂ (says_ofDrafts options file (unit.drafts base options) counter)
    fun h => h.classes.symm, drafts, List.map_map]
  refine List.map_congr_left fun scope _ => ?_
  rw [Function.comp_apply, boundClasses_namespaceDraft, List.map_map]
  rfl

/-- The class statements and the classes that were left out are as many as the classes. -/
theorem skippedClasses_add_length (unit : TranslationUnit) (base : Option Path) (file : Path)
    (options : Options) (counter : Counter) :
    let made := ((Generated.ofDrafts options file (unit.drafts base options)).run counter).1
    made.report.skippedClasses + made.listing.classStatements.length =
      total (fun scope => (unit.classesIn scope).length) (unit.selectedNamespaces options) := by
  intro made
  have hstatements := congrArg List.length
    (classStatements_ofDrafts unit base file options counter)
  have hclasses : made.report.classes = (unit.boundClassNodes base options).length := by
    have hdrafts := congrArg List.length (boundClasses_drafts unit base options)
    rwa [List.length_map] at hdrafts
  rw [List.length_map, List.length_map] at hstatements
  rw [← classes_add_skippedClasses unit base file options, Nat.add_comm, hstatements, ← hclasses]
  rfl

/-- A restriction narrows what is generated, whatever numbers are drawn. -/
theorem narrows_ofDrafts (unit : TranslationUnit) (base : Option Path) (file : Path)
    (options : Options) (restriction : Path) (counter counter' : Counter) :
    unit.Narrows options base restriction
      ((Generated.ofDrafts options.unrestricted file
        (unit.drafts base options.unrestricted)).run counter).1
      ((Generated.ofDrafts (options.restrictedTo restriction) file
        (unit.drafts base (options.restrictedTo restriction))).run counter').1 := by
  have hwhole := says_ofDrafts options.unrestricted file (unit.drafts base options.unrestricted)
    counter
  have hpart := says_ofDrafts (options.restrictedTo restriction) file
    (unit.drafts base (options.restrictedTo restriction)) counter'
  refine ⟨rfl, ?_, ?_, ?_, ?_, ?_⟩
  · rw [← map_eq_of_forall₂ hwhole fun h => h.name.symm,
      ← map_eq_of_forall₂ hpart fun h => h.name.symm, drafts, drafts, List.map_map, List.map_map]
    rfl
  · rw [← map_eq_of_forall₂ hwhole fun h => h.enumerations.symm,
      ← map_eq_of_forall₂ hpart fun h => h.enumerations.symm, drafts, drafts, List.map_map,
      List.map_map]
    rfl
  · refine ⟨(unit.selectedNamespaces options.unrestricted).map fun scope =>
      (unit.classesIn scope).filter (unit.isBoundClass base options.unrestricted),
      List.flatMap_def.symm, ?_, ?_⟩
    · rw [classes_ofDrafts, List.map_map]
      rfl
    · rw [classes_ofDrafts, List.map_map]
      refine List.map_congr_left fun scope _ => ?_
      rw [filter_isBoundClass_restrictedTo]
      rfl
  · intro made hwhich block hblock
    have hmade {drafts : List NamespaceDraft} {blocks : List Block}
        (h : List.Forall₂ NamespaceDraft.Says drafts blocks) : ∀ block ∈ blocks,
        block.statements = block.enumerations ++ block.classes ∧
          ∀ statement ∈ block.statements, statement.IsNumbered :=
      forall_mem_of_forall₂ h fun _ _ _ hblock => ⟨hblock.statements, hblock.numbered⟩
    rcases List.mem_pair.mp hwhich with rfl | rfl
    · exact hmade hwhole block hblock
    · exact hmade hpart block hblock
  · have hcount := unit.skippedClasses_add_length base file options.unrestricted counter
    have hcount' := unit.skippedClasses_add_length base file (options.restrictedTo restriction)
      counter'
    exact hcount'.trans hcount.symm

/-- Restricting what is bound to a file only takes classes away, and restrictions share the classes
out between them. Beside the run without a restriction, the run with one has the same comments, says
the same of enumerations, and says the same of exactly those classes that come from the file, all
under numbers of its own; each class that is missing is reported as left out. Under restrictions to
different places no class is bound twice, and a class that is bound without a restriction is bound
under that to its file. The restriction to an input file leaves a class that names its file just in
case the two names have the same canonical form, and this is the restriction that a job sets. -/
theorem generate_restrictedTo (unit : TranslationUnit) (base : Option Path) (file : Path)
    (options : Options) (counter counter' : Counter) (journal journal' : Array Log.Notice)
    (asked asked' : List Question) (restriction : Path) :
    unit.Narrows options base restriction
        ((unit.generate base file options.unrestricted counter).run
          (unit.sessionAfter journal asked)).1.1
        ((unit.generate base file (options.restrictedTo restriction) counter').run
          (unit.sessionAfter journal' asked')).1.1 ∧
      (∀ n, n ∈ unit.boundClassNodes base (options.restrictedTo restriction) ↔
        n ∈ unit.boundClassNodes base options.unrestricted ∧
          ∃ source, unit.sourceFile? base n = some source ∧ source.same restriction = true) ∧
      (∀ other, restriction.same other = false →
        ∀ n ∈ unit.boundClassNodes base (options.restrictedTo restriction),
          n ∉ unit.boundClassNodes base (options.restrictedTo other)) ∧
      (∀ n ∈ unit.boundClassNodes base options.unrestricted, ∀ source,
        unit.sourceFile? base n = some source →
          n ∈ unit.boundClassNodes base (options.restrictedTo source)) ∧
      (∀ n ∈ unit.boundClassNodes base options.unrestricted, ∀ id declared name,
        (unit.node n).attribute? "file" = some id →
        unit.byIdOfKind? id (· == .file) = some declared →
        (unit.node declared).name? = some name → name ≠ "" → ∀ input place,
          Path.absolute? base input = some place →
            (n ∈ unit.boundClassNodes base (options.restrictedTo place) ↔
              Path.absolute? base ⟨name⟩ = some place)) ∧
      ∀ (job : Job) (host : Host) (input place : Path), job.isXml = false →
        job.settings.generator.restrictToInput = true →
          Path.absolute? host.directory input = some place →
            (job.options host input).map Options.restrictTo = .ok (some place) := by
  have hmem (n : NodeId) (restriction : Path) :
      n ∈ unit.boundClassNodes base (options.restrictedTo restriction) ↔
        n ∈ unit.boundClassNodes base options.unrestricted ∧
          unit.comesFrom base restriction n = true := by
    rw [boundClassNodes_restrictedTo, List.mem_filter]
  refine ⟨?_, fun n => ?_, ?_, ?_, ?_, ?_⟩
  · rw [(answers_generate unit base file options.unrestricted counter _
        (sound_sessionAfter unit journal asked)).1,
      (answers_generate unit base file (options.restrictedTo restriction) counter' _
        (sound_sessionAfter unit journal' asked')).1]
    exact unit.narrows_ofDrafts base file options restriction counter counter'
  · rw [hmem, comesFrom, Option.any_eq_true]
  · intro other hother n hn hn'
    have hsame := same_of_comesFrom ((hmem n restriction).mp hn).2 ((hmem n other).mp hn').2
    rw [hother] at hsame
    cases hsame
  · intro n hn source hsource
    refine (hmem n source).mpr ⟨hn, ?_⟩
    rw [comesFrom, hsource, Option.any_some, Path.same, beq_self_eq_true]
  · intro n hn id declared name hfile hdeclared hname hsome input place hplace
    rw [hmem, comesFrom_absolute?_iff hfile hdeclared hname hsome hplace]
    exact and_iff_right hn
  · intro job host input place hxml hrestrict hplace
    simp [Job.options, Job.restriction?, GeneratorSettings.optionsFor, Except.map, hxml, hrestrict,
      hplace]

/-- Two namespaces, one with a class from a file of the given name, the other with an
enumeration. -/
def twoNamespaces (name : String) : TranslationUnit where
  nodes := #[⟨.nameSpace, [("id", "_1"), ("name", "::")], []⟩,
    ⟨.nameSpace, [("id", "_2"), ("name", "a"), ("context", "_1")], []⟩,
    ⟨.nameSpace, [("id", "_3"), ("name", "b"), ("context", "_1")], []⟩,
    ⟨.classType, [("id", "_4"), ("name", "K"), ("context", "_2"), ("file", "f1")], []⟩,
    ⟨.enumeration, [("id", "_5"), ("name", "E"), ("context", "_3")], []⟩,
    ⟨.file, [("id", "f1"), ("name", name)], []⟩]
  top := [0, 1, 2, 3, 4, 5]

/-- The class of the first namespace is left by the restriction to its file, however that is
written. -/
theorem generate_restrictedTo_twoNamespaces :
    3 ∈ (twoNamespaces "x/../k.hh").boundClassNodes (some ⟨"/tmp"⟩)
      ((⟨["a", "b"], none, "bind_"⟩ : Options).restrictedTo (.absolute ⟨"/tmp"⟩ ⟨"./k.hh"⟩)) := by
  obtain ⟨-, -, -, -, hinput, -⟩ := generate_restrictedTo (twoNamespaces "x/../k.hh")
    (some ⟨"/tmp"⟩) ⟨"./k.hh"⟩ ⟨["a", "b"], none, "bind_"⟩ ⟨1001⟩ ⟨1001⟩ #[] #[] [] []
    ⟨"/tmp/k.hh"⟩
  exact (hinput 3 (by decide) "f1" 5 "x/../k.hh" (by decide) (by decide) (by decide) (by decide)
    ⟨"./k.hh"⟩ _ (Path.absolute?_some _ _)).mpr (by decide)

/-- The number of an enumeration depends on the classes before it that a restriction takes away. And
a file without a name is none, although the empty path has the same canonical form as the input: the
class that comes from it is bound without a restriction only. -/
theorem generate_twoNamespaces_renumbered :
    let whole := (((twoNamespaces "").generate (some ⟨"/tmp"⟩) ⟨"."⟩ ⟨["a", "b"], none, "bind_"⟩
      ⟨1001⟩).run ((twoNamespaces "").sessionAfter #[] [])).1.1.listing
    let part := (((twoNamespaces "").generate (some ⟨"/tmp"⟩) ⟨"."⟩
      ⟨["a", "b"], some (.absolute ⟨"/tmp"⟩ ⟨"."⟩), "bind_"⟩
      ⟨1001⟩).run ((twoNamespaces "").sessionAfter #[] [])).1.1.listing
    (whole.blocks.map fun block => block.enumerations.map (·.identifier)) =
        [[], ["enum_1002"]] ∧
      (part.blocks.map fun block => block.enumerations.map (·.identifier)) =
        [[], ["enum_1001"]] ∧
      Path.absolute ⟨"/tmp"⟩ ⟨""⟩ = .absolute ⟨"/tmp"⟩ ⟨"."⟩ ∧
      (whole.blocks.map fun block => block.classes.map (·.identifier)) = [["class_1001"], []] ∧
      (part.blocks.map fun block => block.classes.map (·.identifier)) = [[], []] := by
  decide +kernel

end TranslationUnit

end Bindery
