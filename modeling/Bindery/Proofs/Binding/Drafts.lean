import Bindery.Binding.Generate
import Bindery.Proofs.Scope.Answer

/-!
# Drafts without memory

What is registered for a translation unit is a function of the unit alone. This file gives that
function for each part of a draft, and shows that the questions by which drafts are worked out
answer with it, in whatever order they are put.
-/

namespace Bindery.TranslationUnit

open Binding

variable {unit : TranslationUnit}

/-- The nodes that a class lists as its members. Ids that lead nowhere are passed over. -/
def memberNodes (unit : TranslationUnit) (n : NodeId) : List NodeId :=
  ((unit.node n).idList "members").filterMap unit.byId?

/-- The members of a class that may be bound. -/
def members (unit : TranslationUnit) (n : NodeId) : Members :=
  (unit.memberNodes n).foldl unit.recordMember .empty

/-- The classes that a class lists as its bases. -/
def baseNodes (unit : TranslationUnit) (n : NodeId) : List NodeId :=
  ((unit.node n).idList "bases").filterMap fun token =>
    unit.byIdOfKind? (baseId token) NodeKind.isClassLike

/-- A base that may be bound: it has a name for it, and stands inside a selected namespace. -/
noncomputable def isBoundBase (unit : TranslationUnit) (namespaces : List String)
    (base : NodeId) : Bool :=
  isBindable (unit.node base).name? && isInside namespaces (unit.scopedName base)

/-- The bases of a class that may be bound. -/
noncomputable def boundBases (unit : TranslationUnit) (namespaces : List String) (n : NodeId) :
    List NodeId :=
  (unit.baseNodes n).filter (unit.isBoundBase namespaces)

/-- What to register for an enumeration. -/
noncomputable def enumerationDraft (unit : TranslationUnit) (n : NodeId) : EnumerationDraft :=
  ⟨unit.scopedName n, (unit.enumValues n).filterMap fun value => (unit.node value).name?⟩

/-- What to register for a class. -/
noncomputable def classDraft (unit : TranslationUnit) (options : Options) (n : NodeId) :
    ClassDraft where
  qualified := unit.scopedName n
  members := unit.members n
  bases :=
    if (unit.members n).isPlainData then []
    else (unit.boundBases options.namespaces n).map unit.scopedName

/-- A class that is registered: it has a name for it, and stands in the file asked for. -/
def isBoundClass (unit : TranslationUnit) (base : Option Path) (options : Options)
    (n : NodeId) : Bool :=
  isBindable (unit.node n).name? && unit.isInFile base options n

/-- What becomes of a class. -/
noncomputable def classOutcome (unit : TranslationUnit) (base : Option Path) (options : Options)
    (n : NodeId) : ClassOutcome :=
  if unit.isBoundClass base options n then .bound (unit.classDraft options n) else .skipped

/-- What to register for a namespace. -/
noncomputable def namespaceDraft (unit : TranslationUnit) (base : Option Path) (options : Options)
    (n : NodeId) : NamespaceDraft where
  name := (unit.node n).name
  enumerations := (unit.enumerationsIn n).map unit.enumerationDraft
  classes := (unit.classesIn n).map (unit.classOutcome base options)

/-- The selected namespaces. -/
def selectedNamespaces (unit : TranslationUnit) (options : Options) : List NodeId :=
  unit.topNamespaces.filter fun n => options.namespaces.contains (unit.node n).name

/-- What to register for a translation unit. -/
noncomputable def drafts (unit : TranslationUnit) (base : Option Path) (options : Options) :
    List NamespaceDraft :=
  (unit.selectedNamespaces options).map (unit.namespaceDraft base options)

/-- Asking for the namespaces to select from tells the log at most. -/
theorem answers_selectNamespaces (unit : TranslationUnit) :
    unit.Answers unit.selectNamespaces unit.topNamespaces := by
  unfold selectNamespaces
  split
  · exact (Answers.tell unit _).bind (.pure unit _)
  · exact .pure unit _

/-- Members are found without regard to the ids that lead nowhere. -/
theorem answers_classify (unit : TranslationUnit) (n : NodeId) :
    unit.Answers (unit.classify n) (unit.members n) := by
  rw [members, memberNodes, List.foldl_filterMap]
  refine Answers.foldlM (fun found id _ => ?_) Members.empty
  unfold classifyId
  cases unit.byId? id with
  | some listed => exact .pure unit _
  | none => exact (Answers.tell unit _).bind (.pure unit _)

/-- An entry of a list of bases stands for the class that it leads to, if that may be bound. -/
theorem answers_resolveBase (unit : TranslationUnit) (namespaces : List String) (token : String) :
    unit.Answers (unit.resolveBase namespaces token)
      ((unit.byIdOfKind? (baseId token) NodeKind.isClassLike).filter
        (unit.isBoundBase namespaces)) := by
  unfold resolveBase
  cases unit.byIdOfKind? (baseId token) NodeKind.isClassLike with
  | none => exact (Answers.tell unit _).bind (.pure unit _)
  | some base =>
    cases hname : isBindable (unit.node base).name? with
    | false =>
      simp only [Option.filter_some, isBoundBase, hname, Bool.false_and, Bool.false_eq_true,
        if_false]
      exact .pure unit _
    | true =>
      simp only [Option.filter_some, isBoundBase, hname, Bool.true_and, if_true]
      refine (answers_qualifiedName unit base).bind ?_
      split
      · exact .pure unit _
      · exact (Answers.tell unit _).bind (.pure unit _)

/-- The bases that may be bound are those of the list of bases that pass both tests. -/
theorem answers_resolveBases (unit : TranslationUnit) (namespaces : List String) (n : NodeId) :
    unit.Answers (unit.resolveBases namespaces n) (unit.boundBases namespaces n) := by
  have hbases : unit.boundBases namespaces n =
      (((unit.node n).idList "bases").map fun token =>
        (unit.byIdOfKind? (baseId token) NodeKind.isClassLike).filter
          (unit.isBoundBase namespaces)).reduceOption := by
    have hpresent (found : List (Option NodeId)) : found.reduceOption = found.filterMap id := rfl
    rw [boundBases, baseNodes, List.filter_filterMap, hpresent, List.filterMap_map]
    rfl
  rw [hbases]
  exact (Answers.mapM fun token _ => answers_resolveBase unit namespaces token).bind (.pure unit _)

/-- Enumerations are drafted under their qualified names. -/
theorem answers_draftEnumeration (unit : TranslationUnit) (n : NodeId) :
    unit.Answers (unit.draftEnumeration n) (unit.enumerationDraft n) :=
  (answers_qualifiedName unit n).bind (.pure unit _)

/-- Members and bases of a class are drafted as for `classDraft`. -/
theorem answers_draftMembers (unit : TranslationUnit) (options : Options) (n : NodeId) :
    unit.Answers (unit.draftMembers options n (unit.scopedName n)) (unit.classDraft options n) := by
  refine (answers_classify unit n).bind ?_
  refine (Answers.forM fun name _ => .tell unit _).bind ?_
  have hnames (bases : List NodeId) : unit.Answers (bases.mapM unit.qualifiedName)
      (bases.map unit.scopedName) :=
    .mapM fun base _ => answers_qualifiedName unit base
  rw [classDraft]
  split
  · exact (Answers.pure unit []).bind ((hnames []).bind (.pure unit _))
  · exact (answers_resolveBases unit _ n).bind ((hnames _).bind (.pure unit _))

/-- A class is left out for its name or its file, and drafted otherwise. -/
theorem answers_draftClass (unit : TranslationUnit) (base : Option Path) (options : Options)
    (n : NodeId) :
    unit.Answers (unit.draftClass base options n) (unit.classOutcome base options n) := by
  unfold draftClass classOutcome isBoundClass
  cases isBindable (unit.node n).name? with
  | false => exact .pure unit _
  | true =>
    refine (answers_qualifiedName unit n).bind ?_
    cases unit.isInFile base options n with
    | true => exact (answers_draftMembers unit options n).bind (.pure unit _)
    | false => exact (Answers.tell unit _).bind (.pure unit _)

/-- Namespaces are drafted with what is declared in them. -/
theorem answers_draftNamespace (unit : TranslationUnit) (base : Option Path) (options : Options)
    (n : NodeId) :
    unit.Answers (unit.draftNamespace base options n) (unit.namespaceDraft base options n) :=
  (Answers.mapM fun m _ => answers_draftEnumeration unit m).bind
    ((Answers.mapM fun m _ => answers_draftClass unit base options m).bind (.pure unit _))

/-- What is registered for a translation unit does not depend on what was asked before. -/
theorem answers_draft (unit : TranslationUnit) (base : Option Path) (options : Options) :
    unit.Answers (unit.draft base options) (unit.drafts base options) :=
  (answers_selectNamespaces unit).bind
    (.mapM fun n _ => answers_draftNamespace unit base options n)

/-- What is generated for a translation unit does not depend on what was asked before. -/
theorem answers_generate (unit : TranslationUnit) (base : Option Path) (file : Path)
    (options : Options) (counter : Counter) :
    unit.Answers (unit.generate base file options counter)
      ((Generated.ofDrafts options file (unit.drafts base options)).run counter) :=
  (answers_draft unit base options).bind (.pure unit _)

end Bindery.TranslationUnit
