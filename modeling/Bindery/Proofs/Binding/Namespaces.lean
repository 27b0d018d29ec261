import Bindery.Proofs.Binding.Restriction

/-!
# The selection of namespaces

The names of the selected namespaces are looked at in two places: where the namespaces themselves
are selected, and where a base is kept or dropped. In both they count as a set. With fewer names
there are fewer blocks; a block that is left registers the same declarations with the same members,
and may only lack bases.
-/

namespace Bindery

namespace Binding

/-- The same options, for other namespaces. -/
def Options.selecting (options : Options) (namespaces : List String) : Options :=
  { options with namespaces := namespaces }

/-- The directive is about a base. -/
def Directive.isBase : Directive → Bool
  | .inherit _ => true
  | _ => false

/-- The statement says the same as the other, except that bases may be missing. -/
structure Statement.Within (part whole : Statement) : Prop where
  /-- The template is the same. -/
  template : part.template = whole.template
  /-- The name is the same. -/
  qualified : part.qualified = whole.qualified
  /-- The same members are registered, in the same order. -/
  members : part.directives.filter (!·.isBase) = whole.directives.filter (!·.isBase)
  /-- The bases are among those of the other, in the same order. -/
  bases : (part.directives.filter (·.isBase)).Sublist (whole.directives.filter (·.isBase))

/-- The report counts no more than the other, under any name. -/
def Report.AtMost (part whole : Report) : Prop :=
  List.Forall₂ (fun count count' => count.1 = count'.1 ∧ count.2 ≤ count'.2) part.counts
    whole.counts

/-- Lists that are related to one and the same list are related through its items. -/
theorem forall₂_of_common {α β γ : Type} {R : α → β → Prop} {S : α → γ → Prop} {items : List α}
    {results : List β} {results' : List γ} (h : List.Forall₂ R items results)
    (h' : List.Forall₂ S items results') :
    List.Forall₂ (fun b c => ∃ a ∈ items, R a b ∧ S a c) results results' := by
  induction h generalizing results' with
  | nil =>
    cases h'
    exact .nil
  | @cons a b items results hfirst hrest ih =>
    cases h' with
    | cons hfirst' hrest' =>
      refine .cons ⟨a, List.mem_cons_self, hfirst, hfirst'⟩ ?_
      refine (ih hrest').imp ?_
      rintro b c ⟨a, hmem, hrelated⟩
      exact ⟨a, List.mem_cons_of_mem _ hmem, hrelated⟩

/-- The sum of a count over the items of a list that are made from others. -/
theorem total_map {α β : Type} (count : β → Nat) (make : α → β) (items : List α) :
    total count (items.map make) = total (fun a => count (make a)) items := by
  rw [total_eq_sum, total_eq_sum, List.map_map]
  rfl

/-- With fewer items and smaller counts, the sum is no larger. -/
theorem total_le_of_sublist {α : Type} {count count' : α → Nat} {items items' : List α}
    (h : items.Sublist items') (hcount : ∀ a, count a ≤ count' a) :
    total count items ≤ total count' items' := by
  induction h with
  | slnil => exact le_refl 0
  | cons a _ ih =>
    rw [total]
    omega
  | cons_cons a _ ih => exact Nat.add_le_add (hcount a) ih

/-- The directives about the members of a class. -/
def ClassDraft.memberDirectives (draft : ClassDraft) : List Directive :=
  draft.members.fields.toList.map (fun entry => .member entry.1) ++
    draft.members.methods.toList.filterMap methodDirective?

/-- The directives for a class are about bases first, and then about members. -/
theorem ClassDraft.directives_eq (draft : ClassDraft) :
    draft.directives = draft.bases.map .inherit ++ draft.memberDirectives := by
  rw [directives, memberDirectives, List.append_assoc]

/-- A directive about a member is not about a base. -/
theorem ClassDraft.isBase_of_mem_memberDirectives {draft : ClassDraft} {directive : Directive}
    (h : directive ∈ draft.memberDirectives) : directive.isBase = false := by
  rcases List.mem_append.mp h with hfield | hmethod
  · obtain ⟨entry, -, rfl⟩ := List.mem_map.mp hfield
    rfl
  · obtain ⟨⟨name, kind⟩, -, hdirective⟩ := List.mem_filterMap.mp hmethod
    cases kind <;> cases hdirective <;> rfl

/-- The directives about bases are those that the bases of the draft lead to. -/
theorem ClassDraft.filter_isBase_directives (draft : ClassDraft) :
    draft.directives.filter (·.isBase) = draft.bases.map .inherit := by
  have hbases : ∀ directive ∈ draft.bases.map Directive.inherit, directive.isBase = true := by
    intro directive hdirective
    obtain ⟨name, -, rfl⟩ := List.mem_map.mp hdirective
    rfl
  have hmembers : ∀ directive ∈ draft.memberDirectives, ¬directive.isBase = true := by
    intro directive hdirective
    rw [isBase_of_mem_memberDirectives hdirective]
    exact Bool.false_ne_true
  rw [directives_eq, List.filter_append, List.filter_eq_self.mpr hbases,
    List.filter_eq_nil_iff.mpr hmembers, List.append_nil]

/-- The other directives are those about members. -/
theorem ClassDraft.filter_not_isBase_directives (draft : ClassDraft) :
    draft.directives.filter (!·.isBase) = draft.memberDirectives := by
  have hbases : ∀ directive ∈ draft.bases.map Directive.inherit, ¬(!directive.isBase) = true := by
    intro directive hdirective
    obtain ⟨name, -, rfl⟩ := List.mem_map.mp hdirective
    exact Bool.false_ne_true
  have hmembers : ∀ directive ∈ draft.memberDirectives, (!directive.isBase) = true := by
    intro directive hdirective
    rw [isBase_of_mem_memberDirectives hdirective, Bool.not_false]
  rw [directives_eq, List.filter_append, List.filter_eq_nil_iff.mpr hbases,
    List.filter_eq_self.mpr hmembers, List.nil_append]

/-- With the same members and fewer bases, the statement for a class says the same but for bases. -/
theorem ClassDraft.MadeInto.within {draft draft' : ClassDraft} {part whole : Statement}
    (hpart : draft.MadeInto part) (hwhole : draft'.MadeInto whole)
    (hqualified : draft.qualified = draft'.qualified) (hmembers : draft.members = draft'.members)
    (hbases : draft.bases.Sublist draft'.bases) : part.Within whole := by
  obtain ⟨number, rfl⟩ := hpart
  obtain ⟨number', rfl⟩ := hwhole
  constructor
  case template => rw [ClassDraft.template, ClassDraft.template, hmembers]
  case qualified => exact hqualified
  case members =>
    rw [filter_not_isBase_directives, filter_not_isBase_directives, memberDirectives, hmembers,
      memberDirectives]
  case bases =>
    rw [filter_isBase_directives, filter_isBase_directives]
    exact hbases.map Directive.inherit

end Binding

/-- With more namespaces, more names lead into one of them. -/
theorem isInside_mono {few many : List String} (h : ∀ name ∈ few, name ∈ many) {qualified : String}
    (hinside : isInside few qualified = true) : isInside many qualified = true := by
  unfold isInside at hinside ⊢
  split at hinside
  · rw [List.contains_iff_mem] at hinside ⊢
    exact h _ hinside
  · cases hinside

namespace TranslationUnit

open Binding

variable {unit : TranslationUnit} {few many : List String}

/-- With fewer names, the namespaces that are selected are those of them that have such a name. -/
theorem selectedNamespaces_selecting (unit : TranslationUnit) (options : Options)
    (h : ∀ name ∈ few, name ∈ many) :
    unit.selectedNamespaces (options.selecting few) =
      (unit.selectedNamespaces (options.selecting many)).filter
        fun scope => few.contains (unit.node scope).name := by
  rw [selectedNamespaces, selectedNamespaces, List.filter_filter]
  refine List.filter_congr fun scope _ => ?_
  have hnames : (few.contains (unit.node scope).name = true) →
      (many.contains (unit.node scope).name = true) := by
    rw [List.contains_iff_mem, List.contains_iff_mem]
    exact h _
  simp only [Options.selecting]
  cases hfew : few.contains (unit.node scope).name with
  | false => rfl
  | true => rw [hnames hfew, Bool.true_and]

/-- With fewer names, the namespaces that are selected are among those of more names. -/
theorem sublist_selectedNamespaces (unit : TranslationUnit) (options : Options)
    (h : ∀ name ∈ few, name ∈ many) :
    (unit.selectedNamespaces (options.selecting few)).Sublist
      (unit.selectedNamespaces (options.selecting many)) := by
  rw [selectedNamespaces_selecting unit options h]
  exact List.filter_sublist

/-- With fewer names, the bases of a class that are bound are among those of more names. -/
theorem sublist_bases_classDraft (unit : TranslationUnit) (options : Options)
    (h : ∀ name ∈ few, name ∈ many) (n : NodeId) :
    (unit.classDraft (options.selecting few) n).bases.Sublist
      (unit.classDraft (options.selecting many) n).bases := by
  have hbound : ∀ b, unit.isBoundBase few b = true → unit.isBoundBase many b = true := by
    intro b hb
    rw [isBoundBase, Bool.and_eq_true] at hb ⊢
    exact ⟨hb.1, isInside_mono h hb.2⟩
  have hbases : (unit.boundBases few n).Sublist (unit.boundBases many n) :=
    List.monotone_filter_right _ hbound
  simp only [classDraft]
  split
  · exact .slnil
  · exact hbases.map unit.scopedName

/-- With fewer names, the classes that are registered are among those of more names. -/
theorem sublist_boundClassNodes (unit : TranslationUnit) (base : Option Path) (options : Options)
    (h : ∀ name ∈ few, name ∈ many) :
    (unit.boundClassNodes base (options.selecting few)).Sublist
      (unit.boundClassNodes base (options.selecting many)) :=
  (sublist_selectedNamespaces unit options h).flatMap _

/-- Whether a class is registered does not depend on the names. -/
theorem isBoundClass_selecting (unit : TranslationUnit) (base : Option Path) (options : Options)
    (namespaces : List String) :
    unit.isBoundClass base (options.selecting namespaces) = unit.isBoundClass base options :=
  rfl

/-- The classes that are left out of a namespace are those that are not registered. -/
theorem countP_isSkipped_namespaceDraft (unit : TranslationUnit) (base : Option Path)
    (options : Options) (scope : NodeId) :
    (unit.namespaceDraft base options scope).classes.countP ClassOutcome.isSkipped =
      (unit.classesIn scope).countP (!unit.isBoundClass base options ·) := by
  rw [namespaceDraft, List.countP_map]
  refine List.countP_congr fun n _ => ?_
  rw [Function.comp_apply, classOutcome]
  cases unit.isBoundClass base options n <;> rfl

/-- The counts of the report on a translation unit, in terms of what was found in it. -/
theorem counts_ofDrafts (unit : TranslationUnit) (base : Option Path) (file : Path)
    (options : Options) :
    (Report.ofDrafts file (unit.drafts base options)).counts =
      let scopes := unit.selectedNamespaces options
      let nodes := unit.boundClassNodes base options
      [("namespaces", scopes.length),
        ("enums", total (fun scope => (unit.enumerationsIn scope).length) scopes),
        ("classes", nodes.length),
        ("plain_data_classes", (nodes.filter fun n => (unit.members n).isPlainData).length),
        ("fields", total (fun n => (unit.members n).fields.size) nodes),
        ("methods",
          total (fun n => ((unit.members n).methods.toList.filter (·.2.isBound)).length) nodes),
        ("bases", total (fun n => (unit.classDraft options n).bases.length) nodes),
        ("duplicates", total (fun n => (unit.members n).ambiguous.length) nodes),
        ("skipped_classes", total
          (fun scope => (unit.classesIn scope).countP (!unit.isBoundClass base options ·))
          scopes)] := by
  have hmembers (n : NodeId) : (unit.classDraft options n).members = unit.members n := rfl
  have henumerations (scope : NodeId) :
      (unit.namespaceDraft base options scope).enumerations.length =
        (unit.enumerationsIn scope).length :=
    List.length_map _
  simp only [Report.counts, Report.ofDrafts, boundClasses_drafts, total_map, List.length_map,
    List.filter_map, Function.comp_def, ClassDraft.boundMethods, hmembers]
  simp only [drafts, total_map, List.length_map, henumerations, countP_isSkipped_namespaceDraft]

/-- With fewer names, no count of the report is larger. -/
theorem atMost_ofDrafts (unit : TranslationUnit) (base : Option Path) (file : Path)
    (options : Options) (h : ∀ name ∈ few, name ∈ many) :
    (Report.ofDrafts file (unit.drafts base (options.selecting few))).AtMost
      (Report.ofDrafts file (unit.drafts base (options.selecting many))) := by
  have hscopes := unit.sublist_selectedNamespaces options h
  have hnodes := unit.sublist_boundClassNodes base options h
  have hscopeTotal (count : NodeId → Nat) := total_le_of_sublist hscopes fun n => le_refl (count n)
  have hnodeTotal (count : NodeId → Nat) := total_le_of_sublist hnodes fun n => le_refl (count n)
  have hbases (n : NodeId) := (unit.sublist_bases_classDraft options h n).length_le
  rw [Report.AtMost, counts_ofDrafts, counts_ofDrafts]
  simp only [isBoundClass_selecting]
  refine .cons ⟨rfl, hscopes.length_le⟩ ?_
  refine .cons ⟨rfl, hscopeTotal _⟩ ?_
  refine .cons ⟨rfl, hnodes.length_le⟩ ?_
  refine .cons ⟨rfl, (hnodes.filter _).length_le⟩ ?_
  refine .cons ⟨rfl, hnodeTotal _⟩ ?_
  refine .cons ⟨rfl, hnodeTotal _⟩ ?_
  refine .cons ⟨rfl, total_le_of_sublist hnodes hbases⟩ ?_
  exact .cons ⟨rfl, hnodeTotal _⟩ (.cons ⟨rfl, hscopeTotal _⟩ .nil)

/-- Two blocks for one namespace, made for narrower and for wider options: they register the same,
but for numbers and for bases that the narrower options do not bind. -/
structure Alike (unit : TranslationUnit) (base : Option Path) (narrow wide : Options)
    (scope : NodeId) (part whole : Block) : Prop where
  /-- Both have the name of the namespace. -/
  name : part.name = (unit.node scope).name ∧ whole.name = (unit.node scope).name
  /-- Enumerations come first, and all statements are numbered. -/
  statements : ∀ block ∈ [part, whole], block.statements = block.enumerations ++ block.classes ∧
    ∀ statement ∈ block.statements, statement.IsNumbered
  /-- The statements for enumerations say the same. -/
  enumerations : part.enumerations.map Statement.content = whole.enumerations.map Statement.content
  /-- The statements for classes are about the same classes. -/
  nodes : ∃ nodes, nodes = (unit.classesIn scope).filter (unit.isBoundClass base narrow) ∧
    part.classes.map Statement.content = nodes.map (unit.classContent narrow) ∧
    whole.classes.map Statement.content = nodes.map (unit.classContent wide)
  /-- They say the same, except that bases may be missing. -/
  classes : List.Forall₂ Statement.Within part.classes whole.classes

/-- What is generated for narrower options, beside what is generated for wider ones. -/
structure Selects (unit : TranslationUnit) (base : Option Path) (narrow wide : Options)
    (part whole : Generated) : Prop where
  /-- The function has the same name. -/
  function : part.listing.function = whole.listing.function
  /-- The blocks are those of the namespaces that are selected still. -/
  blocks : List.Forall₂
    (fun block block' =>
      ∃ scope ∈ unit.selectedNamespaces narrow, unit.Alike base narrow wide scope block block')
    part.listing.blocks
    (whole.listing.blocks.filter fun block => narrow.namespaces.contains block.name)
  /-- The report is about the same file. -/
  file : part.report.file = whole.report.file
  /-- No count of the report is larger. -/
  counts : part.report.AtMost whole.report

/-- The blocks for a translation unit are made for its selected namespaces. -/
theorem forall₂_madeInto_drafts (unit : TranslationUnit) (base : Option Path) (file : Path)
    (options : Options) (counter : Counter) :
    List.Forall₂ (fun scope block => (unit.namespaceDraft base options scope).MadeInto block)
      (unit.selectedNamespaces options)
      ((Generated.ofDrafts options file (unit.drafts base options)).run
        counter).1.listing.blocks := by
  have hmade := madeInto_ofDrafts options file (unit.drafts base options) counter
  rwa [drafts, List.forall₂_map_left_iff] at hmade

/-- Blocks that are made for one namespace, with fewer and with more names, are alike. -/
theorem alike_of_madeInto {base : Option Path} {options : Options} (h : ∀ name ∈ few, name ∈ many)
    {scope : NodeId} {part whole : Block}
    (hpart : (unit.namespaceDraft base (options.selecting few) scope).MadeInto part)
    (hwhole : (unit.namespaceDraft base (options.selecting many) scope).MadeInto whole) :
    unit.Alike base (options.selecting few) (options.selecting many) scope part whole := by
  have hmeant := hpart.says
  have hmeant' := hwhole.says
  have hclasses := hpart.forall₂_filter.2.2
  have hclasses' := hwhole.forall₂_filter.2.2
  constructor
  case name => exact ⟨hmeant.name, hmeant'.name⟩
  case statements =>
    intro block hblock
    rcases List.mem_pair.mp hblock with rfl | rfl
    · exact ⟨hmeant.statements, hmeant.numbered⟩
    · exact ⟨hmeant'.statements, hmeant'.numbered⟩
  case enumerations => exact hmeant.enumerations.trans hmeant'.enumerations.symm
  case nodes =>
    refine ⟨_, rfl, ?_, ?_⟩
    · rw [hmeant.classes, boundClasses_namespaceDraft, List.map_map]
      rfl
    · rw [hmeant'.classes, boundClasses_namespaceDraft, List.map_map]
      rfl
  case classes =>
    rw [boundClasses_namespaceDraft, List.forall₂_map_left_iff] at hclasses hclasses'
    refine (forall₂_of_common hclasses hclasses').imp ?_
    rintro statement statement' ⟨n, -, hmade, hmade'⟩
    exact hmade.within hmade' rfl rfl (unit.sublist_bases_classDraft options h n)

/-- With fewer names, what is generated is a selection, whatever numbers are drawn. -/
theorem selects_ofDrafts (unit : TranslationUnit) (base : Option Path) (file : Path)
    (options : Options) (h : ∀ name ∈ few, name ∈ many) (counter counter' : Counter) :
    unit.Selects base (options.selecting few) (options.selecting many)
      ((Generated.ofDrafts (options.selecting few) file
        (unit.drafts base (options.selecting few))).run counter).1
      ((Generated.ofDrafts (options.selecting many) file
        (unit.drafts base (options.selecting many))).run counter').1 := by
  have hpart := unit.forall₂_madeInto_drafts base file (options.selecting few) counter
  have hwhole := unit.forall₂_madeInto_drafts base file (options.selecting many) counter'
  have hname {scope : NodeId} {block : Block}
      (hmade : (unit.namespaceDraft base (options.selecting many) scope).MadeInto block) :
      few.contains (unit.node scope).name = true ↔ few.contains block.name = true := by
    rw [hmade.1]
    exact Iff.rfl
  have hfunction (options : Options) (counter : Counter) :
      ((Generated.ofDrafts options file (unit.drafts base options)).run
        counter).1.listing.function = functionName options file :=
    rfl
  have hfile (options : Options) (counter : Counter) :
      ((Generated.ofDrafts options file (unit.drafts base options)).run counter).1.report.file =
        file.text :=
    rfl
  have hkept := List.rel_filter (fun _ _ hmade => hname hmade) hwhole
  rw [← unit.selectedNamespaces_selecting options h] at hkept
  constructor
  case function =>
    calc _ = functionName (options.selecting few) file :=
          hfunction (options.selecting few) counter
      _ = functionName (options.selecting many) file := rfl
      _ = _ := (hfunction (options.selecting many) counter').symm
  case blocks =>
    refine (forall₂_of_common hpart hkept).imp ?_
    rintro block block' ⟨scope, hscope, hmade, hmade'⟩
    exact ⟨scope, hscope, alike_of_madeInto h hmade hmade'⟩
  case file =>
    calc _ = file.text := hfile (options.selecting few) counter
      _ = _ := (hfile (options.selecting many) counter').symm
  case counts => exact unit.atMost_ofDrafts base file options h

/-- With the same names, in any order and any number, the same is drafted. -/
theorem drafts_selecting (unit : TranslationUnit) (base : Option Path) (options : Options)
    (h : ∀ name, name ∈ few ↔ name ∈ many) :
    unit.drafts base (options.selecting few) = unit.drafts base (options.selecting many) := by
  have hcontains : few.contains = many.contains := by
    funext name
    rw [Bool.eq_iff_iff, List.contains_iff_mem, List.contains_iff_mem]
    exact h name
  have hinside : isInside few = isInside many := by
    funext qualified
    unfold isInside
    rw [hcontains]
  have hbound : unit.isBoundBase few = unit.isBoundBase many := by
    funext b
    rw [isBoundBase, isBoundBase, hinside]
  have hclass : unit.classDraft (options.selecting few) =
      unit.classDraft (options.selecting many) := by
    funext n
    simp only [classDraft, boundBases, Options.selecting, hbound]
  have hnamespace : unit.namespaceDraft base (options.selecting few) =
      unit.namespaceDraft base (options.selecting many) := by
    funext scope
    have houtcome : unit.classOutcome base (options.selecting few) =
        unit.classOutcome base (options.selecting many) := by
      funext n
      rw [classOutcome, classOutcome, hclass]
      rfl
    rw [namespaceDraft, namespaceDraft, houtcome]
  have hselected : unit.selectedNamespaces (options.selecting few) =
      unit.selectedNamespaces (options.selecting many) := by
    rw [selectedNamespaces, selectedNamespaces]
    exact List.filter_congr fun scope _ => congrFun hcontains _
  rw [drafts, drafts, hselected, hnamespace]

/-- The names of the namespaces count as a set, and the more there are, the more is registered.
Lists of the same names lead to the same code, report and counter. If the names of one list are
among those of another, then its blocks are some of those for the other, in order, and each of them
says the same but for numbers and for bases that are missing, so that no count of the report is
larger. -/
theorem generate_selecting (unit : TranslationUnit) (base : Option Path) (file : Path)
    (options : Options)
    (few many : List String) (counter : Counter) (journal journal' : Array Log.Notice)
    (asked asked' : List Question) :
    let part := ((unit.generate base file (options.selecting few) counter).run
      (unit.sessionAfter journal asked)).1
    let whole := ((unit.generate base file (options.selecting many) counter).run
      (unit.sessionAfter journal' asked')).1
    ((∀ name, name ∈ few ↔ name ∈ many) → part = whole) ∧
      ((∀ name ∈ few, name ∈ many) →
        unit.Selects base (options.selecting few) (options.selecting many) part.1 whole.1) := by
  rw [(answers_generate unit base file (options.selecting few) counter _
      (sound_sessionAfter unit journal asked)).1,
    (answers_generate unit base file (options.selecting many) counter _
      (sound_sessionAfter unit journal' asked')).1]
  constructor
  · intro hsame
    rw [drafts_selecting unit base options hsame]
    rfl
  · intro hfewer
    exact unit.selects_ofDrafts base file options hfewer counter counter

/-- A class with a base of its own namespace and a base of another. -/
def derivedAcross : TranslationUnit where
  nodes := #[⟨.nameSpace, [("id", "_1"), ("name", "::")], []⟩,
    ⟨.nameSpace, [("id", "_2"), ("name", "a"), ("context", "_1")], []⟩,
    ⟨.nameSpace, [("id", "_3"), ("name", "b"), ("context", "_1")], []⟩,
    ⟨.classType, [("id", "_4"), ("name", "A"), ("context", "_2")], []⟩,
    ⟨.classType, [("id", "_5"), ("name", "B"), ("context", "_3")], []⟩,
    ⟨.classType, [("id", "_6"), ("name", "C"), ("context", "_2"), ("bases", "_5 _4")], []⟩]
  top := [0, 1, 2, 3, 4, 5]

/-- What is generated for it when the given namespaces are selected. -/
def derivedAcrossIn (namespaces : List String) : Generated × Counter :=
  ((derivedAcross.generate (some ⟨"/"⟩) ⟨"a.hh"⟩
    ((⟨[], none, "bind_"⟩ : Options).selecting namespaces)
    ⟨1001⟩).run (derivedAcross.sessionAfter #[] [])).1

/-- Naming both namespaces twice over makes no difference. Without the second one, the class is
registered still, and has one base less. -/
theorem generate_derivedAcross_selecting :
    derivedAcrossIn ["a", "b"] = derivedAcrossIn ["b", "a", "b"] ∧
      (derivedAcrossIn ["a"]).1.report.AtMost (derivedAcrossIn ["a", "b"]).1.report ∧
      (derivedAcrossIn ["a"]).1.listing.blocks.map (·.classes.map (·.directives)) =
        [[[], [.inherit "::a::A"]]] ∧
      (derivedAcrossIn ["a", "b"]).1.listing.blocks.map (·.classes.map (·.directives)) =
        [[[], [.inherit "::b::B", .inherit "::a::A"]], [[]]] := by
  obtain ⟨hsame, -⟩ := generate_selecting derivedAcross (some ⟨"/"⟩) ⟨"a.hh"⟩ ⟨[], none, "bind_"⟩
    ["a", "b"] ["b", "a", "b"] ⟨1001⟩ #[] #[] [] []
  obtain ⟨-, hfewer⟩ := generate_selecting derivedAcross (some ⟨"/"⟩) ⟨"a.hh"⟩ ⟨[], none, "bind_"⟩
    ["a"] ["a", "b"] ⟨1001⟩ #[] #[] [] []
  have hcounts := (hfewer (by decide)).counts
  unfold derivedAcrossIn
  refine ⟨hsame (by simp), hcounts, ?_, ?_⟩
  · decide +kernel
  · decide +kernel

end TranslationUnit

end Bindery
