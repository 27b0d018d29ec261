import Bindery.Proofs.Binding.Declarations

/-!
# Lists of directives

A line that consists of an identifier opens a list of directives. In the code of a tidy listing each
such list is closed by a line of its own: nothing but directives stands before it.
-/

namespace Bindery.Binding

/-- Whether a line is one of a list of directives. -/
def isDirectiveLine (line : List Char) : Bool :=
  "    .".toList.isPrefixOf line

/-- The line for a directive is one. -/
theorem Directive.isDirectiveLine_content (directive : Directive) (qualified : String) :
    isDirectiveLine (Line.content ⟨2, directive.line qualified⟩) = true := by
  obtain ⟨rest, hline⟩ : ∃ rest, (directive.line qualified).toList = '.' :: rest := by
    cases directive with
    | inherit base => simp [Directive.line_inherit]
    | member name => simp [Directive.line_member]
    | accessor name => simp [Directive.line_accessor]
    | value name => simp [Directive.line_value]
  simp [isDirectiveLine, Line.content, hline, String.join]

/-- A line that consists of an identifier is none. -/
theorem isDirectiveLine_of_identifier? {line identifier : List Char}
    (h : identifier? line = some identifier) : isDirectiveLine line = false := by
  unfold identifier? at h
  split at h
  next rest =>
    split at h
    next hrest =>
      cases rest with
      | nil => cases hrest
      | cons first rest =>
        rw [isIdentifier, Bool.and_eq_true] at hrest
        have hfirst : first ≠ ' ' := by
          rintro rfl
          exact absurd hrest.1 (by decide)
        simp [isDirectiveLine, List.isPrefixOf, hfirst.symm]
    next => cases h
  next => cases h

/-- A line that is not indented is none. -/
theorem isDirectiveLine_of_head? {line : List Char} (h : line.head? ≠ some ' ') :
    isDirectiveLine line = false := by
  cases line with
  | nil => rfl
  | cons first rest =>
    have hfirst : first ≠ ' ' := fun hspace => h (congrArg some hspace)
    simp [isDirectiveLine, List.isPrefixOf, hfirst.symm]

/-- The line that closes a list of directives. -/
def closingLine : List Char :=
  Line.content ⟨2, ";"⟩

/-- Behind each line that consists of an identifier there are lines for directives, and then the
line that closes their list. -/
def Closed (lines : List (List Char)) : Prop :=
  ∀ before line after identifier, lines = before ++ line :: after →
    identifier? line = some identifier →
      ∃ directives behind, after = directives ++ closingLine :: behind ∧
        ∀ directive ∈ directives, isDirectiveLine directive = true

/-- Lines that open no list leave none open. -/
theorem closed_of_forall {lines : List (List Char)} (h : ∀ line ∈ lines, identifier? line = none) :
    Closed lines := by
  rintro before line after identifier rfl hidentifier
  rw [h line (List.mem_append_right _ List.mem_cons_self)] at hidentifier
  cases hidentifier

/-- A list of directives is closed by the line for that. -/
theorem closed_cons (line : List Char) {directives : List (List Char)}
    (h : ∀ directive ∈ directives, isDirectiveLine directive = true) :
    Closed (line :: (directives ++ [closingLine])) := by
  intro before found after identifier hlines hidentifier
  cases before with
  | nil =>
    obtain ⟨-, rfl⟩ := List.cons.inj hlines
    exact ⟨directives, [], rfl, h⟩
  | cons first before =>
    have hmem : found ∈ directives ++ [closingLine] := by
      rw [(List.cons.inj hlines).2]
      exact List.mem_append_right _ List.mem_cons_self
    have hother := isDirectiveLine_of_identifier? hidentifier
    rcases List.mem_append.mp hmem with hdirective | hclosing
    · rw [h found hdirective] at hother
      cases hother
    · rw [List.mem_singleton.mp hclosing, closingLine, identifier?_content_two] at hidentifier
      cases hidentifier

/-- Lists stay closed when other lines come before or behind them. -/
theorem Closed.append {lines later : List (List Char)} (h : Closed lines) (hlater : Closed later) :
    Closed (lines ++ later) := by
  intro before line after identifier hlines hidentifier
  rcases eq_append_cons_of_append_eq hlines with ⟨rest, hfirst, rfl⟩ | ⟨behind, -, hsecond⟩
  · obtain ⟨directives, behind, rfl, hdirectives⟩ := h before line rest identifier hfirst hidentifier
    exact ⟨directives, behind ++ later, by simp, hdirectives⟩
  · exact hlater behind line after identifier hsecond hidentifier

/-- Lines that are made item by item leave no list open if those of each item do not. -/
theorem Closed.flatMap {α : Type} {items : List α} {lines : α → List (List Char)}
    (h : ∀ a ∈ items, Closed (lines a)) : Closed (items.flatMap lines) := by
  induction items with
  | nil => exact closed_of_forall (List.forall_mem_nil _)
  | cons a items ih =>
    rw [List.forall_mem_cons] at h
    exact h.1.append (ih h.2)

/-- The lines of a statement close the list that they open. -/
theorem Statement.closed (statement : Statement) : Closed (statement.lines.map Line.content) := by
  have hdeclaration : Closed [Line.content ⟨1, statement.declaration⟩] :=
    closed_of_forall (List.forall_mem_singleton.mpr (identifier?_declaration statement))
  rw [lines, List.map_cons]
  split
  · rw [List.cons_append, List.map_cons, List.map_append, List.map_map]
    have hdirectives := closed_cons (Line.content ⟨1, statement.identifier⟩)
      (List.forall_mem_map.mpr fun directive (_ : directive ∈ statement.directives) =>
        directive.isDirectiveLine_content statement.qualified)
    exact hdeclaration.append hdirectives
  · exact hdeclaration

/-- The lines of a block leave no list open. -/
theorem Block.closed (block : Block) : Closed (block.lines.map Line.content) := by
  have hcomment : Closed [Line.content ⟨1, "// namespace " ++ block.name⟩] :=
    closed_of_forall (List.forall_mem_singleton.mpr (identifier?_comment block.name))
  have hstatements : Closed ((block.statements.flatMap Statement.lines).map Line.content) := by
    rw [List.map_flatMap]
    exact .flatMap fun statement _ => statement.closed
  exact hcomment.append hstatements

/-- The lines of a tidy listing leave no list open. -/
theorem Listing.Tidy.closed {listing : Listing} (h : listing.Tidy) :
    Closed (listing.lines.map Line.content) := by
  have hflat (text : String) (htext : (Line.content ⟨0, text⟩).head? ≠ some ' ') :
      Closed [Line.content ⟨0, text⟩] :=
    closed_of_forall (List.forall_mem_singleton.mpr (identifier?_of_head? htext))
  have hblocks : Closed ((listing.blocks.flatMap Block.lines).map Line.content) := by
    rw [List.map_flatMap]
    exact .flatMap fun block _ => block.closed
  have hlines := (((hflat "static void" (by decide)).append
    (hflat (listing.function ++ "()") h.head?_function)).append
    (hflat "\x7b" (by decide))).append (hblocks.append (hflat "\x7d" (by decide)))
  rwa [lines, List.append_assoc, List.map_append, List.map_append]

/-- The code of a tidy listing leaves no list open. -/
theorem Listing.Tidy.closed_render {listing : Listing} (h : listing.Tidy) :
    Closed (linesOf listing.render) := by
  have hnothing : Closed [[]] := closed_of_forall (by decide)
  rw [linesOf_render h]
  exact h.closed.append hnothing

end Bindery.Binding
