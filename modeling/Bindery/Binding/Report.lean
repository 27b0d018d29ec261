import Bindery.Binding.Draft

/-!
# Reports

A report counts what was registered for one input file and what was left out. It is worked out from
the drafts, so that it tells of exactly what the code contains.
-/

namespace Bindery.Binding

/-- What was registered for one input file, and what was left out. -/
structure Report where
  /-- The input file. -/
  file : String
  /-- Namespaces. -/
  namespaces : Nat
  /-- Enumerations. -/
  enums : Nat
  /-- Classes. -/
  classes : Nat
  /-- Classes that are passed by value. -/
  plainDataClasses : Nat
  /-- Data members. -/
  fields : Nat
  /-- Methods. -/
  methods : Nat
  /-- Bases. -/
  bases : Nat
  /-- Names of methods left out as ambiguous. -/
  duplicates : Nat
  /-- Classes left out for their name or their file. -/
  skippedClasses : Nat
  deriving DecidableEq, Repr

/-- The methods that are registered for a class. -/
def ClassDraft.boundMethods (draft : ClassDraft) : List (String × MemberKind) :=
  draft.members.methods.toList.filter (·.2.isBound)

/-- A class that is left out. -/
def ClassOutcome.isSkipped : ClassOutcome → Bool
  | .bound _ => false
  | .skipped => true

/-- The sum of a count over the items of a list. -/
def total {α : Type} (count : α → Nat) : List α → Nat
  | [] => 0
  | a :: rest => count a + total count rest

/-- The report on the drafts for a file. -/
def Report.ofDrafts (file : Path) (drafts : List NamespaceDraft) : Report :=
  let classes := drafts.flatMap NamespaceDraft.boundClasses
  { file := file.text
    namespaces := drafts.length
    enums := total (·.enumerations.length) drafts
    classes := classes.length
    plainDataClasses := (classes.filter (·.members.isPlainData)).length
    fields := total (·.members.fields.size) classes
    methods := total (·.boundMethods.length) classes
    bases := total (·.bases.length) classes
    duplicates := total (·.members.ambiguous.length) classes
    skippedClasses := total (·.classes.countP ClassOutcome.isSkipped) drafts }

/-- The counts of a report under their names, in the order in which they are written. -/
def Report.counts (report : Report) : List (String × Nat) :=
  [("namespaces", report.namespaces), ("enums", report.enums), ("classes", report.classes),
    ("plain_data_classes", report.plainDataClasses), ("fields", report.fields),
    ("methods", report.methods), ("bases", report.bases), ("duplicates", report.duplicates),
    ("skipped_classes", report.skippedClasses)]

end Bindery.Binding
