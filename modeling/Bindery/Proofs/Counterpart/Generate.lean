import Bindery.Proofs.Binding.Numbering
import Bindery.Proofs.Binding.Questions
import Bindery.Proofs.Counterpart.Basic

/-!
# The same code for counterparts

Everything that goes into the code for a node is the same for its counterparts: its members and
their kinds, its bases, its values, its source file. So two translation units whose selected
declarations correspond in order yield the same code, the same report and the same next number.
-/

namespace Bindery.TranslationUnit

open Binding

variable {unit unit' : TranslationUnit} {R : NodeId → NodeId → Prop} {n n' : NodeId}
  {numbers numbers' : List NodeId}

/-- Lists stay related if the nodes that fail a test are left out, and related nodes fail it
together. -/
theorem forall₂_filter {p p' : NodeId → Bool} (hp : ∀ {n n'}, R n n' → p n = p' n')
    (h : List.Forall₂ R numbers numbers') :
    List.Forall₂ R (numbers.filter p) (numbers'.filter p') :=
  List.rel_filter (fun _ _ hn => Bool.eq_iff_iff.mp (hp hn)) h

/-- What is the same for related nodes, is the same for related optional nodes. -/
theorem elim_eq_of_optionRel {α : Type} {default : α} {f f' : NodeId → α}
    (hf : ∀ {n n'}, R n n' → f n = f' n') {found found' : Option NodeId}
    (h : Option.Rel R found found') : found.elim default f = found'.elim default f' := by
  cases h with
  | none => rfl
  | some hrelated => exact hf hrelated

/-- A method returns nothing if its return type is found and is the built-in `void`. -/
theorem returnsVoid_eq_elim (unit : TranslationUnit) (n : NodeId) :
    unit.returnsVoid n = ((unit.link? "returns" n).filter fun type =>
      (unit.node type).kind == .fundamentalType).elim false fun type =>
        (unit.node type).name? == some "void" := by
  unfold returnsVoid byIdOfKind? link?
  cases (unit.node n).attribute? "returns" with
  | none => rfl
  | some id =>
    simp only [Option.bind_some]
    split <;> simp [*]

/-- The source file of a node is what its file attribute leads to, by the name that it has. -/
theorem sourceFile?_eq_elim (unit : TranslationUnit) (base : Option Path) (n : NodeId) :
    unit.sourceFile? base n = ((unit.link? "file" n).filter fun file =>
      (unit.node file).kind == .file).elim none fun file => (unit.node file).name?.bind fun name =>
        if name.isEmpty then none else Path.absolute? base ⟨name⟩ := by
  unfold sourceFile? byIdOfKind? link?
  cases (unit.node n).attribute? "file" with
  | none => rfl
  | some id =>
    simp only [Option.bind_eq_bind, Option.bind_some]
    cases (unit.byId? id).filter _ <;> rfl

namespace Counterparts

variable (h : Counterparts unit unit' R)
include h

/-- Counterparts are visible together. -/
theorem isVisible_eq (hn : R n n') : (unit.node n).isVisible = (unit'.node n').isVisible := by
  rw [Node.isVisible, Node.isVisible, Node.access, Node.access, Node.isStatic, Node.isStatic,
    h.name?_eq hn, h.attribute? hn (by decide), h.attribute? hn (by decide)]

/-- The children of one kind correspond. -/
theorem childrenOfKind (hn : R n n') (kind : NodeKind) :
    List.Forall₂ R (unit.childrenOfKind n kind) (unit'.childrenOfKind n' kind) :=
  forall₂_filter (fun hchild => by rw [h.kind hchild]) (h.children hn)

/-- Counterparts have as many parameters. -/
theorem argumentCount_eq (hn : R n n') : unit.argumentCount n = unit'.argumentCount n' :=
  (h.childrenOfKind hn .argument).length_eq

/-- Nodes of one kind that are linked to correspond. -/
theorem filter_link? (hn : R n n') (kind : NodeKind) {key : String}
    (hkey : key ∈ ["context", "returns", "file"]) :
    Option.Rel R ((unit.link? key n).filter fun found => (unit.node found).kind == kind)
      ((unit'.link? key n').filter fun found => (unit'.node found).kind == kind) :=
  optionRel_filter (fun hfound => by rw [h.kind hfound]) (h.link? hn hkey)

/-- Counterparts return nothing together. -/
theorem returnsVoid_eq (hn : R n n') : unit.returnsVoid n = unit'.returnsVoid n' := by
  rw [returnsVoid_eq_elim, returnsVoid_eq_elim]
  exact elim_eq_of_optionRel (fun htype => by rw [h.name?_eq htype])
    (h.filter_link? hn .fundamentalType (by decide))

/-- Counterparts come from the same file. -/
theorem sourceFile?_eq (hn : R n n') (base : Option Path) :
    unit.sourceFile? base n = unit'.sourceFile? base n' := by
  rw [sourceFile?_eq_elim, sourceFile?_eq_elim]
  exact elim_eq_of_optionRel (fun hfile => by rw [h.name?_eq hfile])
    (h.filter_link? hn .file (by decide))

/-- Counterparts are methods of the same kind. -/
theorem methodKind_eq (hn : R n n') : unit.methodKind n = unit'.methodKind n' := by
  rw [methodKind, methodKind, h.returnsVoid_eq hn, h.argumentCount_eq hn, Node.isConst,
    Node.isConst, h.attribute? hn (by decide)]

/-- Counterparts are recorded as the same members. -/
theorem recordMember_eq (hn : R n n') (found : Members) :
    unit.recordMember found n = unit'.recordMember found n' := by
  simp only [recordMember, h.isVisible_eq hn, h.kind hn, Node.name, h.name?_eq hn,
    h.methodKind_eq hn]

/-- Counterparts have the same members. -/
theorem members_eq (hn : R n n') : unit.members n = unit'.members n' := by
  have hfold {numbers numbers' : List NodeId} (hnumbers : List.Forall₂ R numbers numbers')
      (found : Members) :
      numbers.foldl unit.recordMember found = numbers'.foldl unit'.recordMember found := by
    induction hnumbers generalizing found with
    | nil => rfl
    | cons hm _ ih => rw [List.foldl_cons, List.foldl_cons, h.recordMember_eq hm, ih]
  exact hfold (h.memberNodes hn) .empty

/-- The bases that are bound correspond. -/
theorem boundBases (hn : R n n') (namespaces : List String) :
    List.Forall₂ R (unit.boundBases namespaces n) (unit'.boundBases namespaces n') := by
  refine forall₂_filter (fun hbase => ?_) (h.baseNodes hn)
  rw [isBoundBase, isBoundBase, h.name?_eq hbase, h.scopedName_eq hbase]

/-- Counterparts have the same enumeration draft. -/
theorem enumerationDraft_eq (hn : R n n') :
    unit.enumerationDraft n = unit'.enumerationDraft n' := by
  have hvalues := map_eq_of_forall₂ (h.childrenOfKind hn .enumValue)
    fun hvalue => h.name?_eq hvalue
  have hnames (unit : TranslationUnit) (n : NodeId) :
      (unit.enumValues n).filterMap (fun value => (unit.node value).name?) =
        ((unit.enumValues n).map fun value => (unit.node value).name?).filterMap id := by
    rw [List.filterMap_map]
    rfl
  rw [enumerationDraft, enumerationDraft, h.scopedName_eq hn, hnames, hnames, enumValues,
    enumValues, hvalues]

/-- Counterparts have the same class draft. -/
theorem classDraft_eq (hn : R n n') (options : Options) :
    unit.classDraft options n = unit'.classDraft options n' := by
  have hbases := map_eq_of_forall₂ (h.boundBases hn options.namespaces)
    fun hbase => h.scopedName_eq hbase
  rw [classDraft, classDraft, h.scopedName_eq hn, h.members_eq hn, hbases]

/-- The same becomes of counterparts. -/
theorem classOutcome_eq (hn : R n n') (base : Option Path) (options : Options) :
    unit.classOutcome base options n = unit'.classOutcome base options n' := by
  rw [classOutcome, classOutcome, isBoundClass, isBoundClass, isInFile, isInFile, h.name?_eq hn,
    h.sourceFile?_eq hn, h.classDraft_eq hn]

/-- Namespaces in which counterparts are declared in the same order have the same draft. -/
theorem namespaceDraft_eq (hn : R n n') (base : Option Path) (options : Options)
    (henumerations : List.Forall₂ R (unit.enumerationsIn n) (unit'.enumerationsIn n'))
    (hclasses : List.Forall₂ R (unit.classesIn n) (unit'.classesIn n')) :
    unit.namespaceDraft base options n = unit'.namespaceDraft base options n' := by
  have hdrafts := map_eq_of_forall₂ henumerations fun hm => h.enumerationDraft_eq hm
  have houtcomes : (unit.classesIn n).map (unit.classOutcome base options) =
      (unit'.classesIn n').map (unit'.classOutcome base options) :=
    map_eq_of_forall₂ hclasses fun hm => h.classOutcome_eq hm base options
  rw [namespaceDraft, namespaceDraft, Node.name, Node.name, h.name?_eq hn, hdrafts, houtcomes]

/-- If the selected namespaces correspond in order, and so do the declarations in each of them, then
the code, the report and the next number are the same, whatever was asked before. -/
theorem generate_eq (base : Option Path) (file : Path) (options : Options) (counter : Counter)
    (hselected : List.Forall₂ R (unit.selectedNamespaces options)
      (unit'.selectedNamespaces options))
    (henumerations : ∀ {n n'}, R n n' → n ∈ unit.selectedNamespaces options →
      List.Forall₂ R (unit.enumerationsIn n) (unit'.enumerationsIn n'))
    (hclasses : ∀ {n n'}, R n n' → n ∈ unit.selectedNamespaces options →
      List.Forall₂ R (unit.classesIn n) (unit'.classesIn n'))
    (journal journal' : Array Log.Notice) (asked asked' : List Question) :
    ((unit.generate base file options counter).run (unit.sessionAfter journal asked)).1 =
      ((unit'.generate base file options counter).run (unit'.sessionAfter journal' asked')).1 := by
  have hmembers := (List.forall₂_and_left _ _).mpr ⟨fun n hn => hn, hselected⟩
  have hdrafts : unit.drafts base options = unit'.drafts base options :=
    map_eq_of_forall₂ hmembers fun hn => h.namespaceDraft_eq hn.2 base options
      (henumerations hn.2 hn.1) (hclasses hn.2 hn.1)
  rw [(answers_generate unit base file options counter _ (sound_sessionAfter unit journal asked)).1,
    (answers_generate unit' base file options counter _
      (sound_sessionAfter unit' journal' asked')).1, hdrafts]

end Counterparts

end Bindery.TranslationUnit
