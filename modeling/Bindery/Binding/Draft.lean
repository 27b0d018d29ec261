import Bindery.Binding.Base
import Bindery.Binding.Counter
import Bindery.Binding.Listing

/-!
# What is bound

A draft says what is to be registered for a namespace before any identifier is drawn: its
enumerations with their values, and for each class either its members and bases or that it is left
out. Drafts are worked out from a translation unit; numbering turns them into statements.
-/

namespace Bindery

namespace Binding

/-- What to bind. -/
structure Options where
  /-- The namespaces whose enumerations and classes are bound. -/
  namespaces : List String
  /-- The file to which bound classes are restricted, if they are. -/
  restrictTo : Option Path
  /-- What the names of the registration functions begin with. -/
  functionPrefix : String
  deriving DecidableEq, Repr

/-- An enumeration to register. -/
structure EnumerationDraft where
  /-- Its qualified name. -/
  qualified : String
  /-- The names of its values. -/
  values : List String
  deriving DecidableEq, Repr

/-- A class to register. -/
structure ClassDraft where
  /-- Its qualified name. -/
  qualified : String
  /-- Its members. -/
  members : Members
  /-- The qualified names of its bases. -/
  bases : List String

/-- What becomes of a class of a selected namespace. -/
inductive ClassOutcome where
  /-- It is registered. -/
  | bound (draft : ClassDraft)
  /-- It is left out, for its name or for the file it is declared in. -/
  | skipped

/-- What to register for one namespace. -/
structure NamespaceDraft where
  /-- The name of the namespace. -/
  name : String
  /-- Its enumerations. -/
  enumerations : List EnumerationDraft
  /-- What becomes of its classes. -/
  classes : List ClassOutcome

/-- The statement for an enumeration. -/
def EnumerationDraft.statement (draft : EnumerationDraft) : StateM Counter Statement := do
  let identifier ← Counter.draw Template.enumeration.word
  return ⟨.enumeration, draft.qualified, identifier, draft.values.map .value⟩

/-- The template that a class is registered with. -/
def ClassDraft.template (draft : ClassDraft) : Template :=
  if draft.members.isPlainData then .plainData else .object

/-- The directive for a method of the given name and kind; none if it is ambiguous. -/
def methodDirective? (entry : String × MemberKind) : Option Directive :=
  match entry.2 with
  | .ambiguous => none
  | .accessor => some (.accessor entry.1)
  | _ => some (.member entry.1)

/-- The directives for a class: bases, then data members, then methods. -/
def ClassDraft.directives (draft : ClassDraft) : List Directive :=
  draft.bases.map .inherit
    ++ draft.members.fields.toList.map (fun entry => .member entry.1)
    ++ draft.members.methods.toList.filterMap methodDirective?

/-- The statement for a class. -/
def ClassDraft.statement (draft : ClassDraft) : StateM Counter Statement := do
  let identifier ← Counter.draw draft.template.word
  return ⟨draft.template, draft.qualified, identifier, draft.directives⟩

/-- The draft of a class that is not left out. -/
def ClassOutcome.draft? : ClassOutcome → Option ClassDraft
  | .bound draft => some draft
  | .skipped => none

/-- The classes of a namespace that are registered. -/
def NamespaceDraft.boundClasses (draft : NamespaceDraft) : List ClassDraft :=
  draft.classes.filterMap ClassOutcome.draft?

/-- The statements for a namespace: enumerations, then classes. -/
def NamespaceDraft.block (draft : NamespaceDraft) : StateM Counter Block := do
  let enumerations ← draft.enumerations.mapM EnumerationDraft.statement
  let classes ← draft.boundClasses.mapM ClassDraft.statement
  return ⟨draft.name, enumerations ++ classes⟩

end Binding

namespace TranslationUnit

open Binding

/-- Works out what to register for an enumeration. Values without a name are left out. -/
def draftEnumeration (unit : TranslationUnit) (n : NodeId) : Query EnumerationDraft := do
  let qualified ← unit.qualifiedName n
  return ⟨qualified, (unit.enumValues n).filterMap fun value => (unit.node value).name?⟩

/-- Whether a class may be bound under the options, as far as its file tells. -/
def isInFile (unit : TranslationUnit) (base : Option Path) (options : Options) (n : NodeId) :
    Bool :=
  match options.restrictTo with
  | none => true
  | some file =>
    match unit.sourceFile? base n with
    | some source => source.same file
    | none => false

/-- Works out the members and bases to register for a class. The log is told of every ambiguous
method. Only classes that are not passed by value have their bases registered. -/
def draftMembers (unit : TranslationUnit) (options : Options) (n : NodeId) (qualified : String) :
    Query ClassDraft := do
  let members ← unit.classify n
  members.ambiguous.forM fun name => Session.tell (.ambiguousMethod qualified name)
  let bases ← if members.isPlainData then pure [] else unit.resolveBases options.namespaces n
  return ⟨qualified, members, ← bases.mapM unit.qualifiedName⟩

/-- Works out what becomes of a class. -/
def draftClass (unit : TranslationUnit) (base : Option Path) (options : Options) (n : NodeId) :
    Query ClassOutcome := do
  if isBindable (unit.node n).name? then
    let qualified ← unit.qualifiedName n
    if unit.isInFile base options n then
      return .bound (← unit.draftMembers options n qualified)
    else
      Session.tell (.foreignClass qualified)
      return .skipped
  else return .skipped

/-- Works out what to register for a namespace. -/
def draftNamespace (unit : TranslationUnit) (base : Option Path) (options : Options) (n : NodeId) :
    Query NamespaceDraft := do
  let enumerations ← (unit.enumerationsIn n).mapM unit.draftEnumeration
  let classes ← (unit.classesIn n).mapM (unit.draftClass base options)
  return ⟨(unit.node n).name, enumerations, classes⟩

/-- Works out what to register for the selected namespaces. -/
def draft (unit : TranslationUnit) (base : Option Path) (options : Options) :
    Query (List NamespaceDraft) := do
  let namespaces ← unit.selectNamespaces
  let selected := namespaces.filter fun n => options.namespaces.contains (unit.node n).name
  selected.mapM (unit.draftNamespace base options)

end TranslationUnit

end Bindery
