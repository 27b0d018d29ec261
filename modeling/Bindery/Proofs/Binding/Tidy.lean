import Bindery.Proofs.Binding.Numbering
import Bindery.Proofs.Binding.Selection
import Bindery.Proofs.Member.Members
import Bindery.Settings.Basic

/-!
# Tidy listings

A listing is tidy if each of its lines is one line of text, if its function has an identifier for a
name, and if its statements stand under qualified names with identifiers that are numbered. Where no
declared name has a line end, the listing for a translation unit is tidy.
-/

namespace Bindery

/-- A text without a line end. -/
def OneLine (text : String) : Prop :=
  '\n' ∉ text.toList

instance (text : String) : Decidable (OneLine text) :=
  inferInstanceAs (Decidable ('\n' ∉ text.toList))

/-- A text is free of line ends if its parts are. -/
@[simp]
theorem oneLine_append {first second : String} :
    OneLine (first ++ second) ↔ OneLine first ∧ OneLine second := by
  simp [OneLine, not_or]

/-- Every character of an identifier may stand in it behind the first. -/
theorem isIdentifierPart_of_mem {text : List Char} (h : isIdentifier text = true) {c : Char}
    (hc : c ∈ text) : isIdentifierPart c = true := by
  cases text with
  | nil => cases h
  | cons first rest =>
    rw [isIdentifier, Bool.and_eq_true, List.all_eq_true] at h
    rcases List.mem_cons.mp hc with rfl | hrest
    · have hstart := h.1
      simp only [isIdentifierStart, Bool.or_eq_true, beq_iff_eq] at hstart
      simp only [isIdentifierPart, Char.isAlphanum, Bool.or_eq_true, beq_iff_eq]
      exact hstart.imp_left .inl
    · exact h.2 c hrest

/-- An identifier has no line end. -/
theorem oneLine_of_isIdentifier {text : String} (h : isIdentifier text.toList = true) :
    OneLine text := by
  intro hend
  have hpart := isIdentifierPart_of_mem h hend
  revert hpart
  decide

/-- An identifier goes on with letters, digits and `_`. -/
theorem isIdentifier_append {first second : List Char} (h : isIdentifier first = true)
    (hsecond : ∀ c ∈ second, isIdentifierPart c = true) :
    isIdentifier (first ++ second) = true := by
  cases first with
  | nil => cases h
  | cons c rest =>
    rw [isIdentifier, Bool.and_eq_true] at h
    rw [List.cons_append, isIdentifier, h.1, Bool.true_and, List.all_append, h.2, Bool.true_and,
      List.all_eq_true]
    exact hsecond

namespace Binding

/-- The name of a registration function is an identifier if it begins with one, whatever the input
file is called. -/
theorem isIdentifier_functionName {options : Options}
    (h : isIdentifier options.functionPrefix.toList = true) (file : Path) :
    isIdentifier (functionName options file).toList = true := by
  rw [functionName, String.toList_append, fileIdentifier, String.toList_ofList]
  refine isIdentifier_append h fun c hc => ?_
  obtain ⟨original, _, rfl⟩ := List.mem_map.mp hc
  rw [identifierChar]
  split
  next halnum => rw [isIdentifierPart, halnum, Bool.true_or]
  next => decide

/-- A number does not bring a line end with it. -/
theorem oneLine_numbered {word : String} (hword : OneLine word) (n : Nat) :
    OneLine (numbered word n) := by
  have hnumber : OneLine (toString n) := fun hend =>
    absurd (isDigit_of_mem_toString hend) (by decide)
  rw [numbered, oneLine_append, oneLine_append]
  exact ⟨⟨hword, by decide⟩, hnumber⟩

/-- The name that a directive is about. -/
def Directive.name : Directive → String
  | .inherit base => base
  | .member name => name
  | .accessor name => name
  | .value name => name

/-- A statement that is written in lines of its own and tells by its parts what they are. -/
structure Statement.Tidy (statement : Statement) : Prop where
  /-- The qualified name leads through the global namespace. -/
  begins : "::".toList <+: statement.qualified.toList
  /-- It is free of line ends. -/
  qualified : OneLine statement.qualified
  /-- The identifier is the word of the template with a number. -/
  identifier : ∃ n, statement.identifier = numbered statement.template.word n
  /-- The names of the directives are free of line ends. -/
  directives : ∀ directive ∈ statement.directives, OneLine directive.name

/-- A block of tidy statements, with a name that is free of line ends. -/
structure Block.Tidy (block : Block) : Prop where
  /-- The name. -/
  name : OneLine block.name
  /-- The statements. -/
  statements : ∀ statement ∈ block.statements, statement.Tidy

/-- A function of tidy blocks, with an identifier for a name. -/
structure Listing.Tidy (listing : Listing) : Prop where
  /-- The name. -/
  function : isIdentifier listing.function.toList = true
  /-- The blocks. -/
  blocks : ∀ block ∈ listing.blocks, block.Tidy

/-- A directive about a name that is free of line ends is written in one line. -/
theorem Directive.oneLine_line {directive : Directive} {qualified : String}
    (hname : OneLine directive.name) (hqualified : OneLine qualified) :
    OneLine (directive.line qualified) := by
  cases directive <;> simp only [name] at hname <;>
    simp only [line_inherit, line_member, line_accessor, line_value, oneLine_append, hname,
      hqualified, true_and] <;> decide

/-- A tidy statement is written in lines without line ends of their own. -/
theorem Statement.Tidy.oneLine_lines {statement : Statement} (h : statement.Tidy) :
    ∀ line ∈ statement.lines, OneLine line.text := by
  obtain ⟨n, hidentifier⟩ := h.identifier
  have hword : OneLine statement.template.word := by cases statement.template <;> decide
  have hname : OneLine statement.template.name := by cases statement.template <;> decide
  have hnumbered : OneLine statement.identifier := hidentifier ▸ oneLine_numbered hword n
  have hdeclaration : OneLine statement.declaration := by
    simp only [statement.declaration_eq, oneLine_append, hname, h.qualified, hnumbered, true_and]
    decide
  rw [lines, List.forall_mem_cons]
  refine ⟨hdeclaration, ?_⟩
  split
  · simp only [List.cons_append, List.forall_mem_cons, List.forall_mem_append, List.forall_mem_map]
    exact ⟨hnumbered, fun directive hdirective =>
      Directive.oneLine_line (h.directives directive hdirective) h.qualified, by decide⟩
  · exact List.forall_mem_nil _

/-- A tidy listing is written in lines without line ends of their own. -/
theorem Listing.Tidy.oneLine_lines {listing : Listing} (h : listing.Tidy) :
    ∀ line ∈ listing.lines, OneLine line.text := by
  have hfunction : OneLine (listing.function ++ "()") :=
    oneLine_append.mpr ⟨oneLine_of_isIdentifier h.function, by decide⟩
  simp only [lines, List.cons_append, List.nil_append, List.forall_mem_cons,
    List.forall_mem_append]
  refine ⟨by decide, hfunction, by decide, fun line hline => ?_, by decide⟩
  obtain ⟨block, hblock, hline⟩ := List.mem_flatMap.mp hline
  rcases List.mem_cons.mp hline with rfl | hline
  · exact oneLine_append.mpr ⟨by decide, (h.blocks block hblock).name⟩
  · obtain ⟨statement, hstatement, hline⟩ := List.mem_flatMap.mp hline
    exact ((h.blocks block hblock).statements statement hstatement).oneLine_lines line hline

/-- The statement for a class is tidy if what is drafted for the class is. -/
theorem ClassDraft.MadeInto.tidy {draft : ClassDraft} {statement : Statement}
    (hmade : draft.MadeInto statement) (hbegins : "::".toList <+: draft.qualified.toList)
    (hqualified : OneLine draft.qualified)
    (hdirectives : ∀ directive ∈ draft.directives, OneLine directive.name) : statement.Tidy := by
  obtain ⟨number, rfl⟩ := hmade
  exact ⟨hbegins, hqualified, ⟨number, rfl⟩, hdirectives⟩

/-- The directive for a method is about its name. -/
theorem name_of_methodDirective? {entry : String × MemberKind} {directive : Directive}
    (h : methodDirective? entry = some directive) : directive.name = entry.1 := by
  obtain ⟨name, kind⟩ := entry
  cases kind <;> cases h <;> rfl

end Binding

namespace TranslationUnit

open Binding

variable {unit : TranslationUnit} {n : NodeId} {options : Options} {c : Char}

/-- No declared name has a line end. -/
def NamesOneLine (unit : TranslationUnit) : Prop :=
  ∀ node ∈ unit.nodes, ∀ name ∈ node.name?, OneLine name

instance (unit : TranslationUnit) : Decidable unit.NamesOneLine :=
  inferInstanceAs (Decidable (∀ node ∈ unit.nodes, ∀ name ∈ node.name?, OneLine name))

/-- The character stands in no declared name. -/
def NamesLack (unit : TranslationUnit) (c : Char) : Prop :=
  ∀ node ∈ unit.nodes, ∀ name ∈ node.name?, c ∉ name.toList

instance (unit : TranslationUnit) (c : Char) : Decidable (unit.NamesLack c) :=
  inferInstanceAs (Decidable (∀ node ∈ unit.nodes, ∀ name ∈ node.name?, c ∉ name.toList))

/-- A line end is a character that may be lacking. -/
theorem NamesOneLine.lack (h : unit.NamesOneLine) : unit.NamesLack '\n' :=
  h

/-- A character that stands in no declared name does not stand in the name of a node, missing or
not. -/
theorem NamesLack.name (h : unit.NamesLack c) (n : NodeId) : c ∉ (unit.node n).name.toList := by
  rw [node]
  cases hnode : unit.nodes[n]? with
  | none => exact List.not_mem_nil
  | some found =>
    rw [Option.getD_some, Node.name]
    cases hname : found.name? with
    | none => exact List.not_mem_nil
    | some name => exact h found (Array.mem_of_getElem? hnode) name hname

/-- Qualified names are put together from names and colons. -/
theorem NamesLack.scopedName (h : unit.NamesLack c) (hc : c ≠ ':') (n : NodeId) :
    c ∉ (unit.scopedName n).toList := by
  cases hlocal : unit.isGlobal n with
  | true =>
    rw [scopedName_of_isGlobal hlocal]
    exact List.not_mem_nil
  | false =>
    obtain ⟨outer, houter⟩ := exists_outer_scopedName_eq hlocal
    rw [houter, String.toList_join, List.flatMap_map, List.mem_flatMap]
    rintro ⟨m, _, hmem⟩
    rw [String.toList_append, List.mem_append] at hmem
    rcases hmem with hcolon | hname
    · simp [hc] at hcolon
    · exact h.name m hname

/-- The qualified name of anything but the global namespace leads through the global namespace. -/
theorem begins_scopedName (hlocal : unit.isGlobal n = false) :
    "::".toList <+: (unit.scopedName n).toList := by
  obtain ⟨outer, houter⟩ := exists_outer_scopedName_eq hlocal
  rw [houter, String.toList_join]
  cases outer <;> simp

/-- What is registered about a class goes by declared and qualified names. -/
theorem NamesLack.directives (h : unit.NamesLack c) (hc : c ≠ ':') (options : Options)
    (n : NodeId) :
    ∀ directive ∈ (unit.classDraft options n).directives, c ∉ directive.name.toList := by
  simp only [ClassDraft.directives, classDraft, toList_fields_members, toList_methods_members,
    List.forall_mem_append, List.forall_mem_map]
  refine ⟨⟨fun base hbase => ?_, fun name hname => ?_⟩, fun directive hdirective => ?_⟩
  · split at hbase
    · cases hbase
    · obtain ⟨m, _, rfl⟩ := List.mem_map.mp hbase
      exact h.scopedName hc m
  · obtain ⟨m, _, rfl⟩ := mem_distinctNames.mp hname
    exact h.name m
  · obtain ⟨entry, hentry, hdirective⟩ := List.mem_filterMap.mp hdirective
    obtain ⟨name, hname, rfl⟩ := List.mem_map.mp hentry
    obtain ⟨m, _, rfl⟩ := mem_distinctNames.mp hname
    rw [name_of_methodDirective? hdirective]
    exact h.name m

/-- What is registered about an enumeration goes by declared names. -/
theorem NamesLack.values (h : unit.NamesLack c) (n : NodeId) :
    ∀ name ∈ (unit.enumerationDraft n).values, c ∉ name.toList := by
  intro name hname
  obtain ⟨value, _, hvalue⟩ := List.mem_filterMap.mp hname
  have hown : (unit.node value).name = name := by rw [Node.name, hvalue]; rfl
  exact hown ▸ h.name value

/-- The statement for an enumeration is tidy. -/
theorem NamesOneLine.tidy_enumeration (h : unit.NamesOneLine) (hlocal : unit.isGlobal n = false)
    {statement : Statement} (hmade : (unit.enumerationDraft n).MadeInto statement) :
    statement.Tidy := by
  obtain ⟨number, rfl⟩ := hmade
  refine ⟨begins_scopedName hlocal, h.lack.scopedName (by decide) n, ⟨number, rfl⟩, ?_⟩
  exact List.forall_mem_map.mpr (h.lack.values n)

/-- The statement for a class is tidy. -/
theorem NamesOneLine.tidy_class (h : unit.NamesOneLine) (hlocal : unit.isGlobal n = false)
    {statement : Statement} (hmade : (unit.classDraft options n).MadeInto statement) :
    statement.Tidy :=
  hmade.tidy (begins_scopedName hlocal) (h.lack.scopedName (by decide) n)
    (h.lack.directives (by decide) options n)

/-- What is listed as a member of a namespace is of the kind that was asked for. -/
theorem kind_of_mem_membersOf {scope : NodeId} {accept : NodeKind → Bool}
    (h : n ∈ unit.membersOf scope accept) : accept (unit.node n).kind = true := by
  rw [membersOf_eq, List.mem_filter, Bool.and_eq_true] at h
  exact h.2.1

/-- The block for a namespace is tidy. -/
theorem NamesOneLine.tidy_block (h : unit.NamesOneLine) {base : Option Path} {block : Block}
    (hmade : (unit.namespaceDraft base options n).MadeInto block) : block.Tidy := by
  obtain ⟨hname, enumerations, classes, hstatements, henumerations, hclasses⟩ := hmade
  refine ⟨hname ▸ h.lack.name n, ?_⟩
  rw [boundClasses_namespaceDraft] at hclasses
  rw [hstatements, List.forall_mem_append]
  constructor
  · refine forall_mem_of_forall₂ henumerations fun draft hdraft statement hmade => ?_
    obtain ⟨m, hm, rfl⟩ := List.mem_map.mp hdraft
    have hkind : (unit.node m).kind = .enumeration := by simpa using kind_of_mem_membersOf hm
    exact h.tidy_enumeration (isGlobal_eq_false_of_kind (.inl hkind)) hmade
  · refine forall_mem_of_forall₂ hclasses fun draft hdraft statement hmade => ?_
    obtain ⟨m, hm, rfl⟩ := List.mem_map.mp hdraft
    have hkind := kind_of_mem_membersOf (List.mem_filter.mp hm).1
    exact h.tidy_class (isGlobal_eq_false_of_kind (.inr hkind)) hmade

/-- The listing for a translation unit is tidy if no declared name has a line end, and the name of
its function begins with an identifier. -/
theorem NamesOneLine.tidy_listing (h : unit.NamesOneLine)
    (hfunction : isIdentifier options.functionPrefix.toList = true) (base : Option Path)
    (file : Path) (counter : Counter) :
    ((Generated.ofDrafts options file (unit.drafts base options)).run counter).1.listing.Tidy := by
  refine ⟨isIdentifier_functionName hfunction file, ?_⟩
  refine forall_mem_of_forall₂ (madeInto_ofDrafts options file _ counter)
    fun draft hdraft block hmade => ?_
  obtain ⟨scope, _, rfl⟩ := List.mem_map.mp hdraft
  exact h.tidy_block hmade

end TranslationUnit

end Bindery
