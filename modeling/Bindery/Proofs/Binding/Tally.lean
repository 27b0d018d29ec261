import Bindery.Proofs.Binding.Identifiers
import Bindery.Proofs.Binding.Lines
import Mathlib.Tactic.Ring

/-!
# The report and the code

A report is worked out from the drafts, and so is the code. Here each count of a report is read off
the code again, line by line, or traced back to the declarations that were looked at. The counter
moves on by as many numbers as the report tells of statements.
-/

namespace Bindery

namespace Binding

/-- The counts of a report are those of the lines of a code. -/
structure Report.Matches (report : Report) (code : String) : Prop where
  /-- Each namespace has a comment. -/
  namespaces : countLines ["  // namespace "] code = report.namespaces
  /-- Each enumeration has a declaration. -/
  enums : countLines ["  ::Jsonipc::Enum< "] code = report.enums
  /-- Each class has a declaration, with one of two templates. -/
  classes : countLines ["  ::Jsonipc::Class< ", "  ::Jsonipc::Serializable< "] code = report.classes
  /-- One of the templates is for classes that are passed by value. -/
  plainDataClasses : countLines ["  ::Jsonipc::Serializable< "] code = report.plainDataClasses
  /-- Each base has a line. -/
  bases : countLines ["    .inherit< "] code = report.bases
  /-- Each data member and each method has a line. -/
  members : countLines ["    .set (\""] code = report.fields + report.methods

/-- The marks in the statement for a class. -/
def ClassDraft.marks (draft : ClassDraft) : List Mark :=
  draft.template.mark :: draft.directives.filterMap Directive.mark?

/-- The marks in the block for a namespace. -/
def NamespaceDraft.marks (draft : NamespaceDraft) : List Mark :=
  .block :: ((draft.enumerations.map fun _ => .enumeration) ++
    draft.boundClasses.flatMap ClassDraft.marks)

/-- What is the same for related items, is the same when put in a row for related lists. -/
theorem flatMap_eq_of_forall₂ {α β γ : Type} {R : α → β → Prop} {items : List α}
    {results : List β} (h : List.Forall₂ R items results) {f : α → List γ} {f' : β → List γ}
    (hf : ∀ {a b}, R a b → f a = f' b) : items.flatMap f = results.flatMap f' := by
  rw [List.flatMap_def, List.flatMap_def, map_eq_of_forall₂ h hf]

/-- A block has the marks of the draft that it is made from. -/
theorem NamespaceDraft.MadeInto.marks_eq {draft : NamespaceDraft} {block : Block}
    (h : draft.MadeInto block) : block.marks = draft.marks := by
  obtain ⟨_, enumerations, classes, hstatements, henumerations, hclasses⟩ := h
  have henumeration {draft : EnumerationDraft} {statement : Statement}
      (hmade : draft.MadeInto statement) : [Mark.enumeration] = statement.marks := by
    obtain ⟨n, rfl⟩ := hmade
    simp [Statement.marks, Template.mark, List.filterMap_map, Directive.mark?, Function.comp_def]
  have hclass {draft : ClassDraft} {statement : Statement}
      (hmade : draft.MadeInto statement) : draft.marks = statement.marks := by
    obtain ⟨n, rfl⟩ := hmade
    rfl
  rw [Block.marks, hstatements, List.flatMap_append, NamespaceDraft.marks, List.map_eq_flatMap,
    flatMap_eq_of_forall₂ henumerations henumeration, flatMap_eq_of_forall₂ hclasses hclass]

/-- The listing of a file has the marks of its drafts. -/
theorem marks_ofDrafts (options : Options) (file : Path) (drafts : List NamespaceDraft)
    (counter : Counter) :
    ((Generated.ofDrafts options file drafts).run counter).1.listing.marks =
      drafts.flatMap NamespaceDraft.marks := by
  exact (flatMap_eq_of_forall₂ (madeInto_ofDrafts options file drafts counter)
    fun hmade => hmade.marks_eq.symm).symm

/-- The directives for a class have a mark for each base, each data member and each method that is
registered. -/
theorem ClassDraft.filterMap_mark?_directives (draft : ClassDraft) :
    draft.directives.filterMap Directive.mark? =
      (draft.bases.map fun _ => .base) ++ (draft.members.fields.toList.map fun _ => .member) ++
        draft.boundMethods.map fun _ => .member := by
  have hmethods : (draft.members.methods.toList.filterMap methodDirective?).filterMap
      Directive.mark? = draft.boundMethods.map fun _ => .member := by
    rw [List.filterMap_filterMap, boundMethods, ← List.filterMap_eq_map, List.filterMap_filter]
    refine List.filterMap_congr fun entry _ => ?_
    obtain ⟨name, kind⟩ := entry
    cases kind <;> rfl
  rw [directives, List.filterMap_append, List.filterMap_append, hmethods, List.filterMap_map,
    List.filterMap_map, ← List.filterMap_eq_map, ← List.filterMap_eq_map]
  rfl

/-- Equal marks are counted all or none. -/
theorem countP_map_const {α : Type} (items : List α) (mark : Mark) (p : Mark → Bool) :
    (items.map fun _ => mark).countP p = (p mark).toNat * items.length := by
  rw [List.map_const', List.countP_replicate]
  cases p mark <;> simp

/-- Counting the first mark and those behind it. -/
theorem countP_cons_marks (mark : Mark) (marks : List Mark) (p : Mark → Bool) :
    (mark :: marks).countP p = (p mark).toNat + marks.countP p := by
  rw [List.countP_cons, Nat.add_comm]
  cases p mark <;> rfl

/-- The sum of a count over two lists, one after the other. -/
theorem total_append {α : Type} (count : α → Nat) (items items' : List α) :
    total count (items ++ items') = total count items + total count items' := by
  simp only [total_eq_sum, List.map_append, List.sum_append]

/-- Counting the marks of a class. -/
theorem ClassDraft.countP_marks (draft : ClassDraft) (p : Mark → Bool) :
    draft.marks.countP p = (p draft.template.mark).toNat + (p .base).toNat * draft.bases.length +
      (p .member).toNat * (draft.members.fields.size + draft.boundMethods.length) := by
  have hfields : draft.members.fields.toList.length = draft.members.fields.size := rfl
  rw [marks, filterMap_mark?_directives, countP_cons_marks, List.countP_append, List.countP_append,
    countP_map_const, countP_map_const, countP_map_const, hfields]
  ring

/-- Counting the marks of classes. -/
theorem total_countP_marks (classes : List ClassDraft) (p : Mark → Bool) :
    total (·.marks.countP p) classes =
      (p .plainData).toNat * (classes.filter (·.members.isPlainData)).length +
      (p .object).toNat * (classes.filter (!·.members.isPlainData)).length +
      (p .base).toNat * total (·.bases.length) classes +
      (p .member).toNat *
        (total (·.members.fields.size) classes + total (·.boundMethods.length) classes) := by
  induction classes with
  | nil => simp [total]
  | cons draft rest ih =>
    have hmark : draft.template.mark =
        if draft.members.isPlainData then .plainData else .object := by
      rw [ClassDraft.template]
      split <;> rfl
    simp only [total, ih, draft.countP_marks, hmark, List.filter_cons]
    cases draft.members.isPlainData with
    | true =>
      simp only [Bool.not_true, if_true, Bool.false_eq_true, if_false, List.length_cons]
      ring
    | false =>
      simp only [Bool.not_false, if_true, Bool.false_eq_true, if_false, List.length_cons]
      ring

/-- Counting the marks of a namespace. -/
theorem NamespaceDraft.countP_marks (draft : NamespaceDraft) (p : Mark → Bool) :
    draft.marks.countP p = (p .block).toNat + (p .enumeration).toNat * draft.enumerations.length +
      total (·.marks.countP p) draft.boundClasses := by
  rw [marks, countP_cons_marks, List.countP_append, countP_map_const, List.countP_flatMap,
    total_eq_sum, Nat.add_assoc]
  rfl

/-- Counting the marks of all namespaces. -/
theorem countP_flatMap_marks (drafts : List NamespaceDraft) (p : Mark → Bool) :
    (drafts.flatMap NamespaceDraft.marks).countP p = (p .block).toNat * drafts.length +
      (p .enumeration).toNat * total (·.enumerations.length) drafts +
      total (·.marks.countP p) (drafts.flatMap NamespaceDraft.boundClasses) := by
  induction drafts with
  | nil => simp [total]
  | cons draft rest ih =>
    rw [List.flatMap_cons, List.countP_append, ih, draft.countP_marks, List.flatMap_cons,
      total_append, total, List.length_cons]
    ring

/-- The report on drafts matches the code that is made of them, if that is tidy. -/
theorem matches_ofDrafts {options : Options} {file : Path} {drafts : List NamespaceDraft}
    {counter : Counter}
    (h : ((Generated.ofDrafts options file drafts).run counter).1.listing.Tidy) :
    (Report.ofDrafts file drafts).Matches
      ((Generated.ofDrafts options file drafts).run counter).1.code := by
  have hcount (wanted : List Mark) :
      countLines (wanted.map Mark.text)
          ((Generated.ofDrafts options file drafts).run counter).1.code =
        (drafts.flatMap NamespaceDraft.marks).countP wanted.contains := by
    rw [Generated.code, countLines_render h, marks_ofDrafts]
  simp only [countP_flatMap_marks, total_countP_marks] at hcount
  constructor
  · refine (hcount [.block]).trans ?_
    simp [Report.ofDrafts]
  · refine (hcount [.enumeration]).trans ?_
    simp [Report.ofDrafts]
  · refine (hcount [.object, .plainData]).trans ?_
    have hclasses := (drafts.flatMap NamespaceDraft.boundClasses).length_eq_length_filter_add
      (·.members.isPlainData)
    simpa [Report.ofDrafts] using hclasses.symm
  · refine (hcount [.plainData]).trans ?_
    simp [Report.ofDrafts]
  · refine (hcount [.base]).trans ?_
    simp [Report.ofDrafts]
  · refine (hcount [.member]).trans ?_
    simp [Report.ofDrafts]

/-- The statements of a listing that register classes. -/
def Listing.classStatements (listing : Listing) : List Statement :=
  (listing.blocks.flatMap Block.statements).filter (·.template != .enumeration)

/-- The class statements of a block stand under the names of the classes that are registered. -/
theorem NamespaceDraft.MadeInto.classStatements_eq {draft : NamespaceDraft} {block : Block}
    (h : draft.MadeInto block) :
    (block.statements.filter (·.template != .enumeration)).map (·.qualified) =
      draft.boundClasses.map (·.qualified) := by
  have hqualified {draft : ClassDraft} {statement : Statement}
      (hmade : draft.MadeInto statement) : draft.qualified = statement.qualified := by
    obtain ⟨n, rfl⟩ := hmade
    rfl
  obtain ⟨_, _, hclasses⟩ := h.forall₂_filter
  exact (map_eq_of_forall₂ hclasses hqualified).symm

/-- Every class of a namespace is registered or left out. -/
theorem NamespaceDraft.length_classes (draft : NamespaceDraft) :
    draft.boundClasses.length + draft.classes.countP ClassOutcome.isSkipped =
      draft.classes.length := by
  rw [boundClasses]
  induction draft.classes with
  | nil => rfl
  | cons outcome rest ih =>
    rw [List.length_cons, ← ih]
    cases outcome with
    | bound draft =>
      simp only [List.filterMap_cons, ClassOutcome.draft?, List.countP_cons, ClassOutcome.isSkipped,
        List.length_cons]
      simp
      omega
    | skipped =>
      simp only [List.filterMap_cons, ClassOutcome.draft?, List.countP_cons, ClassOutcome.isSkipped]
      simp
      omega

end Binding

namespace TranslationUnit

open Binding

variable {unit : TranslationUnit} {options : Options}

/-- The classes of the selected namespaces that are registered, in the order of their statements. -/
def boundClassNodes (unit : TranslationUnit) (base : Option Path)
    (options : Options) : List NodeId :=
  (unit.selectedNamespaces options).flatMap fun scope =>
    (unit.classesIn scope).filter (unit.isBoundClass base options)

/-- The method names of all registered classes, each with its class. -/
def methodPairs (unit : TranslationUnit) (base : Option Path) (options : Options) :
    List (NodeId × String) :=
  (unit.boundClassNodes base options).flatMap fun n =>
    (unit.methodNames n).map fun name => (n, name)

/-- What a method name of a class is registered as. -/
def overloadKind (unit : TranslationUnit) (pair : NodeId × String) : MemberKind :=
  .ofRecorded (unit.overloads pair.1 pair.2)

/-- The drafts of the classes that are registered. -/
theorem boundClasses_drafts (unit : TranslationUnit) (base : Option Path) (options : Options) :
    (unit.drafts base options).flatMap NamespaceDraft.boundClasses =
      (unit.boundClassNodes base options).map (unit.classDraft options) := by
  rw [drafts, List.flatMap_map, boundClassNodes, List.map_flatMap]
  simp only [boundClasses_namespaceDraft]

/-- Counting names class by class, or all the pairs at once. -/
theorem total_methodNames (unit : TranslationUnit) (base : Option Path) (options : Options)
    (p : MemberKind → Bool) :
    total (fun n => (unit.methodNames n).countP fun name => p (unit.overloadKind (n, name)))
        (unit.boundClassNodes base options) =
      (unit.methodPairs base options).countP fun pair => p (unit.overloadKind pair) := by
  rw [total_eq_sum, methodPairs, List.countP_flatMap]
  simp only [Function.comp_def, List.countP_map]

/-- Every class of the selected namespaces is registered or left out. -/
theorem classes_add_skippedClasses (unit : TranslationUnit) (base : Option Path) (file : Path)
    (options : Options) :
    (Report.ofDrafts file (unit.drafts base options)).classes +
        (Report.ofDrafts file (unit.drafts base options)).skippedClasses =
      total (fun scope => (unit.classesIn scope).length) (unit.selectedNamespaces options) := by
  have hlength (scope : NodeId) :
      (unit.classesIn scope).length = (unit.namespaceDraft base options scope).classes.length :=
    (List.length_map _).symm
  simp only [Report.ofDrafts, List.length_flatMap, total_eq_sum, ← List.sum_map_add,
    NamespaceDraft.length_classes, hlength, drafts, List.map_map, Function.comp_def]

/-- The ambiguous methods of a class are those with an overload set that cannot be told apart. -/
theorem length_ambiguous_classDraft (unit : TranslationUnit) (options : Options) (n : NodeId) :
    (unit.classDraft options n).members.ambiguous.length =
      (unit.methodNames n).countP fun name => unit.overloadKind (n, name) == .ambiguous := by
  rw [Members.ambiguous, KindTable.namesOf, classDraft, toList_methods_members, List.length_map,
    List.filter_map, List.length_map, ← List.countP_eq_length_filter]
  simp only [Function.comp_def, overloadKind]

/-- The methods of a class that are registered are those with any other overload set. -/
theorem length_boundMethods_classDraft (unit : TranslationUnit) (options : Options) (n : NodeId) :
    (unit.classDraft options n).boundMethods.length =
      (unit.methodNames n).countP fun name => unit.overloadKind (n, name) != .ambiguous := by
  have hbound (kind : MemberKind) : kind.isBound = (kind != .ambiguous) := by
    cases kind <;> rfl
  rw [ClassDraft.boundMethods, classDraft, toList_methods_members, List.filter_map,
    List.length_map, ← List.countP_eq_length_filter]
  simp only [Function.comp_def, hbound, overloadKind]

/-- A method name counts as a duplicate if its overload set cannot be told apart, and as a method
otherwise. -/
theorem duplicates_and_methods (unit : TranslationUnit) (base : Option Path) (file : Path)
    (options : Options) :
    (Report.ofDrafts file (unit.drafts base options)).duplicates =
        (unit.methodPairs base options).countP (fun pair => unit.overloadKind pair == .ambiguous) ∧
      (Report.ofDrafts file (unit.drafts base options)).methods =
        (unit.methodPairs base options).countP
          fun pair => unit.overloadKind pair != .ambiguous := by
  have htotal (count : ClassDraft → Nat) :
      total count ((unit.boundClassNodes base options).map (unit.classDraft options)) =
        total (fun n => count (unit.classDraft options n)) (unit.boundClassNodes base options) := by
    simp only [total_eq_sum, List.map_map, Function.comp_def]
  rw [← total_methodNames unit base options (· == .ambiguous),
    ← total_methodNames unit base options (· != .ambiguous), Report.ofDrafts, boundClasses_drafts]
  simp only [htotal, length_ambiguous_classDraft, length_boundMethods_classDraft, and_self]

/-- The class statements stand under the names of the classes that are registered, in order. -/
theorem classStatements_ofDrafts (unit : TranslationUnit) (base : Option Path) (file : Path)
    (options : Options) (counter : Counter) :
    ((Generated.ofDrafts options file (unit.drafts base options)).run
        counter).1.listing.classStatements.map (·.qualified) =
      (unit.boundClassNodes base options).map unit.scopedName := by
  have hmade := madeInto_ofDrafts options file (unit.drafts base options) counter
  have hblocks := flatMap_eq_of_forall₂ hmade fun h => h.classStatements_eq.symm
  rw [Listing.classStatements, List.filter_flatMap, List.map_flatMap, ← hblocks,
    ← List.map_flatMap, boundClasses_drafts, List.map_map]
  rfl

/-- What is reported on a translation unit is what the code contains and what was found in the unit,
and the counter moves on by the number of statements, as long as there are numbers left. The lines
of the code that begin in the six ways of the marks are as many as the report says. Each class that
is found in a selected namespace is either registered or left out. Of the method names of the
registered classes, those with an overload set that cannot be told apart are reported as duplicates,
and all others as methods. -/
theorem generate_matches (hnames : unit.NamesOneLine)
    (hfunction : isIdentifier options.functionPrefix.toList = true) (base : Option Path)
    (file : Path) (counter : Counter) (journal : Array Log.Notice) (asked : List Question) :
    let generated :=
      ((unit.generate base file options counter).run (unit.sessionAfter journal asked)).1
    generated.1.report.Matches generated.1.code ∧
      generated.2 = counter.advance (generated.1.report.enums + generated.1.report.classes) ∧
      (counter.next.toNat + (generated.1.report.enums + generated.1.report.classes) < 2 ^ 64 →
        generated.2.next.toNat =
          counter.next.toNat + generated.1.report.enums + generated.1.report.classes) ∧
      generated.1.report.classes + generated.1.report.skippedClasses =
        total (fun scope => (unit.classesIn scope).length) (unit.selectedNamespaces options) ∧
      generated.1.listing.classStatements.map (·.qualified) =
        (unit.boundClassNodes base options).map unit.scopedName ∧
      generated.1.report.duplicates =
        (unit.methodPairs base options).countP (fun pair => unit.overloadKind pair == .ambiguous) ∧
      generated.1.report.methods =
        (unit.methodPairs base options).countP
          fun pair => unit.overloadKind pair != .ambiguous := by
  rw [(answers_generate unit base file options counter _
    (sound_sessionAfter unit journal asked)).1]
  have hcounter := counter_ofDrafts options file (unit.drafts base options) counter
  refine ⟨matches_ofDrafts (hnames.tidy_listing hfunction base file counter), hcounter,
    fun hfits => ?_, classes_add_skippedClasses unit base file options,
    classStatements_ofDrafts unit base file options counter,
    duplicates_and_methods unit base file options⟩
  rw [hcounter, Nat.add_assoc]
  exact Counter.toNat_next_advance hfits

/-- A class with a field, a getter and a setter of one name, and two methods that cannot be told
apart. -/
def overloadedClass : TranslationUnit where
  nodes := #[⟨.nameSpace, [("id", "_1"), ("name", "::")], []⟩,
    ⟨.nameSpace, [("id", "_2"), ("name", "a"), ("context", "_1")], []⟩,
    ⟨.classType, [("id", "_3"), ("name", "C"), ("context", "_2"), ("members", "_4 _5 _6 _7 _8")],
      []⟩,
    ⟨.field, [("id", "_4"), ("name", "x")], []⟩,
    ⟨.method, [("id", "_5"), ("name", "f")], []⟩,
    ⟨.method, [("id", "_6"), ("name", "g"), ("const", "1")], []⟩,
    ⟨.method, [("id", "_7"), ("name", "f"), ("const", "1")], []⟩,
    ⟨.method, [("id", "_8"), ("name", "g"), ("returns", "_9")], [9]⟩,
    ⟨.fundamentalType, [("id", "_9"), ("name", "void")], []⟩,
    ⟨.argument, [], []⟩]
  top := [0, 1, 2, 3, 4, 5, 6, 7, 8]

/-- One statement is made for the class, under the first number: the field and the accessor are
registered, and one name is reported as ambiguous. -/
theorem generate_overloadedClass_matches :
    let generated := ((overloadedClass.generate (some ⟨"/"⟩) ⟨"a.hh"⟩ ⟨["a"], none, "bind_"⟩
      ⟨1001⟩).run (overloadedClass.sessionAfter #[] [])).1
    generated.1.report.Matches generated.1.code ∧ generated.2.next.toNat = 1002 ∧
      generated.1.report.duplicates = 1 ∧ generated.1.report.methods = 1 := by
  obtain ⟨hmatches, _, hcounter, _, _, hduplicates, hmethods⟩ := generate_matches
    (by decide : overloadedClass.NamesOneLine)
    (by decide : isIdentifier (⟨["a"], none, "bind_"⟩ : Options).functionPrefix.toList = true)
    (some ⟨"/"⟩) ⟨"a.hh"⟩ ⟨1001⟩ #[] []
  exact ⟨hmatches, (hcounter (by decide)).trans (by decide), hduplicates.trans (by decide),
    hmethods.trans (by decide)⟩

end TranslationUnit

end Bindery
