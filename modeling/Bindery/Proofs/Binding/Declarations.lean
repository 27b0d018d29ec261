import Bindery.Proofs.Binding.Identifiers
import Bindery.Proofs.Binding.Lines

/-!
# Declarations in the code

The identifiers that a code declares can be read off its lines, from the declarations as well as
from the lines that consist of an identifier alone. In the lines of a tidy listing the declarations
are those of its statements, and each identifier that stands alone is the one that was declared in
the line before.
-/

namespace Bindery.Binding

/-- The template that a marked line declares something with. -/
def Mark.template? : Mark → Option Template
  | .enumeration => some .enumeration
  | .object => some .object
  | .plainData => some .plainData
  | _ => none

/-- What a line declares: the template that shows in how it begins, and the identifier that stands
behind the last space, before a semicolon. -/
def declared? (line : List Char) : Option (Template × List Char) :=
  ((mark? line).bind Mark.template?).map fun template =>
    (template, (Text.afterLast ' ' line).dropLast)

/-- The line declares something. -/
def declares (line : List Char) : Bool :=
  (declared? line).isSome

/-- The identifier that a line consists of, if it does, behind the indentation of one level. -/
def identifier? : List Char → Option (List Char)
  | ' ' :: ' ' :: rest => if isIdentifier rest then some rest else none
  | _ => none

/-- Wherever a line consists of an identifier, the line before declares this identifier. -/
def Backed (lines : List (List Char)) : Prop :=
  ∀ before line after identifier, lines = before ++ line :: after →
    identifier? line = some identifier →
      ∃ front declaration template, before = front ++ [declaration] ∧
        declared? declaration = some (template, identifier)

/-- Lines that declare the identifiers of some statements, and in which no identifier stands alone
that is not declared in the line before. -/
structure Declares (lines : List (List Char)) (statements : List Statement) : Prop where
  /-- The declarations are those of the statements, in order. -/
  declarations : lines.filter Binding.declares =
    statements.map fun statement => Line.content ⟨1, statement.declaration⟩
  /-- Each identifier that stands alone follows its declaration. -/
  backed : Backed lines

/-- Lines that declare nothing and consist of no identifier. -/
theorem declares_nil {lines : List (List Char)}
    (h : ∀ line ∈ lines, declared? line = none ∧ identifier? line = none) : Declares lines [] where
  declarations := List.filter_eq_nil_iff.mpr fun line hline => by
    simp [Binding.declares, (h line hline).1]
  backed := by
    rintro before line after identifier rfl hidentifier
    rw [(h line (List.mem_append_right _ List.mem_cons_self)).2] at hidentifier
    cases hidentifier

/-- A place in two lists, one after the other, is a place in one of the two. -/
theorem eq_append_cons_of_append_eq {α : Type} {first second before after : List α} {a : α}
    (h : first ++ second = before ++ a :: after) :
    (∃ rest, first = before ++ a :: rest ∧ after = rest ++ second) ∨
      ∃ behind, before = first ++ behind ∧ second = behind ++ a :: after := by
  rcases List.append_eq_append_iff.mp h with ⟨behind, hbefore, hsecond⟩ | ⟨rest, hfirst, hrest⟩
  · exact .inr ⟨behind, hbefore, hsecond⟩
  · cases rest with
    | nil => exact .inr ⟨[], by simpa using hfirst.symm, by simpa using hrest.symm⟩
    | cons other rest =>
      obtain ⟨rfl, hafter⟩ := List.cons.inj hrest
      exact .inl ⟨rest, hfirst, hafter⟩

/-- Lines that come one after the other declare what each of them declare. -/
theorem Declares.append {lines later : List (List Char)} {statements others : List Statement}
    (h : Declares lines statements) (hlater : Declares later others) :
    Declares (lines ++ later) (statements ++ others) where
  declarations := by
    rw [List.filter_append, h.declarations, hlater.declarations, List.map_append]
  backed := by
    intro before line after identifier hlines hidentifier
    rcases eq_append_cons_of_append_eq hlines with ⟨rest, hfirst, -⟩ | ⟨behind, rfl, hbehind⟩
    · exact h.backed before line rest identifier hfirst hidentifier
    · obtain ⟨front, declaration, template, rfl, hdeclared⟩ :=
        hlater.backed behind line after identifier hbehind hidentifier
      exact ⟨lines ++ front, declaration, template, by rw [List.append_assoc], hdeclared⟩

/-- Lines that are made item by item declare the statements of the items. -/
theorem Declares.flatMap {α : Type} {items : List α} {lines : α → List (List Char)}
    {statements : α → List Statement} (h : ∀ a ∈ items, Declares (lines a) (statements a)) :
    Declares (items.flatMap lines) (items.flatMap statements) := by
  induction items with
  | nil => exact declares_nil (List.forall_mem_nil _)
  | cons a items ih =>
    rw [List.forall_mem_cons] at h
    exact h.1.append (ih h.2)

/-- The names of the templates, each with the word that its identifiers begin with. -/
theorem Template.name_word_mem (template : Template) :
    (template.name, template.word) ∈
      [("Enum", "enum"), ("Class", "class"), ("Serializable", "serializable")] := by
  cases template <;> decide

/-- The line for a declaration, spelled out. -/
theorem Statement.content_declaration_eq (statement : Statement) :
    Line.content ⟨1, statement.declaration⟩ =
      ("  ::Jsonipc::" ++ statement.template.name ++ "< " ++ statement.qualified ++ " > "
        ++ statement.identifier ++ ";").toList := by
  simp [Line.content, String.join, statement.declaration_eq]

/-- A declaration is read as it was written. -/
theorem declared?_declaration (statement : Statement)
    (h : ' ' ∉ statement.identifier.toList) :
    declared? (Line.content ⟨1, statement.declaration⟩) =
      some (statement.template, statement.identifier.toList) := by
  have htemplate : statement.template.mark.template? = some statement.template := by
    cases statement.template <;> rfl
  have hcontent : Line.content ⟨1, statement.declaration⟩ =
      (statement.template.mark.text.toList ++ (statement.qualified.toList ++ " >".toList)) ++
        ' ' :: (statement.identifier.toList ++ [';']) := by
    simp [statement.content_declaration]
  have hlast : ' ' ∉ statement.identifier.toList ++ [';'] := by simpa using h
  rw [declared?, mark?_declaration, Option.bind_some, htemplate, hcontent,
    Text.afterLast_append_cons, Text.afterLast_of_not_mem hlast, List.dropLast_concat]
  rfl

/-- What the declarations of some lines are read as. -/
theorem Declares.declared {lines : List (List Char)} {statements : List Statement}
    (h : Declares lines statements)
    (hspace : ∀ statement ∈ statements, ' ' ∉ statement.identifier.toList) :
    lines.filterMap declared? =
      statements.map fun statement => (statement.template, statement.identifier.toList) := by
  have hfilter : lines.filterMap declared? =
      (lines.filter Binding.declares).filterMap declared? := by
    rw [List.filterMap_filter]
    refine List.filterMap_congr fun line _ => ?_
    cases hline : declared? line <;> simp [Binding.declares, hline]
  rw [hfilter, h.declarations, List.filterMap_map, ← List.filterMap_eq_map]
  refine List.filterMap_congr fun statement hmem => ?_
  rw [Function.comp_apply, declared?_declaration statement (hspace statement hmem),
    Function.comp_apply]

/-- A line declares nothing unless it is marked as a declaration. -/
theorem declared?_eq_none {line : List Char} (h : (mark? line).bind Mark.template? = none) :
    declared? line = none := by
  rw [declared?, h]
  rfl

/-- The line for a directive declares nothing. -/
theorem declared?_directive (directive : Directive) {qualified : String}
    (hqualified : "::".toList <+: qualified.toList) :
    declared? (Line.content ⟨2, directive.line qualified⟩) = none := by
  refine declared?_eq_none ?_
  rw [mark?_directive directive hqualified]
  cases directive <;> rfl

/-- A line is no identifier if something else stands behind its indentation. -/
theorem identifier?_eq_none {c : Char} (h : isIdentifierStart c = false) (rest : List Char) :
    identifier? (' ' :: ' ' :: c :: rest) = none := by
  simp [identifier?, isIdentifier, h]

/-- A declaration is no identifier. -/
theorem identifier?_declaration (statement : Statement) :
    identifier? (Line.content ⟨1, statement.declaration⟩) = none := by
  have hcontent : Line.content ⟨1, statement.declaration⟩ =
      ' ' :: ' ' :: ':' :: (":Jsonipc::" ++ statement.template.name ++ "< "
        ++ statement.qualified ++ " > " ++ statement.identifier ++ ";").toList := by
    rw [statement.content_declaration_eq]
    simp only [String.toList_append, String.reduceToList, List.cons_append, List.append_assoc]
  rw [hcontent, identifier?_eq_none (by decide)]

/-- The comment of a block is no identifier. -/
theorem identifier?_comment (name : String) :
    identifier? (Line.content ⟨1, "// namespace " ++ name⟩) = none := by
  have hcontent : Line.content ⟨1, "// namespace " ++ name⟩ =
      ' ' :: ' ' :: '/' :: ("/ namespace " ++ name).toList := by
    simp [Line.content, String.join]
  rw [hcontent, identifier?_eq_none (by decide)]

/-- A line that is not indented is no identifier of the first level. -/
theorem identifier?_of_head? {line : List Char} (h : line.head? ≠ some ' ') :
    identifier? line = none := by
  unfold identifier?
  split
  · exact absurd rfl h
  · rfl

/-- A line of the second level is no identifier of the first. -/
theorem identifier?_content_two (text : String) : identifier? (Line.content ⟨2, text⟩) = none := by
  have hcontent : Line.content ⟨2, text⟩ = ' ' :: ' ' :: ' ' :: ' ' :: text.toList := by
    simp [Line.content, String.join]
  rw [hcontent, identifier?_eq_none (by decide)]

/-- The word of a template and a number make an identifier. -/
theorem isIdentifier_numbered (template : Template) (n : Nat) :
    isIdentifier (numbered template.word n).toList = true := by
  rw [numbered, String.toList_append, String.toList_append, List.append_assoc]
  refine isIdentifier_append (by cases template <;> decide) ?_
  have hline : "_".toList = ['_'] := rfl
  rw [List.forall_mem_append, hline, List.forall_mem_singleton]
  refine ⟨by decide, fun c hc => ?_⟩
  rw [isIdentifierPart, Char.isAlphanum, isDigit_of_mem_toString hc, Bool.or_true, Bool.true_or]

/-- A statement that is numbered declares an identifier. -/
theorem Statement.Tidy.isIdentifier {statement : Statement} (h : statement.Tidy) :
    isIdentifier statement.identifier.toList = true := by
  obtain ⟨n, hidentifier⟩ := h.identifier
  rw [hidentifier, isIdentifier_numbered]

/-- No space stands in the identifier of a tidy statement. -/
theorem Statement.Tidy.space_not_mem {statement : Statement} (h : statement.Tidy) :
    ' ' ∉ statement.identifier.toList := by
  intro hspace
  have hpart := isIdentifierPart_of_mem h.isIdentifier hspace
  revert hpart
  decide

/-- A declaration declares its identifier, whether that is repeated in a line of its own behind it
or not. -/
theorem declares_declaration {declaration : List Char} {repeated : List (List Char)}
    {statement : Statement} (hdeclaration : declaration = Line.content ⟨1, statement.declaration⟩)
    (hdeclared : declared? declaration = some (statement.template, statement.identifier.toList))
    (hnone : identifier? declaration = none)
    (hrepeated : repeated = [] ∨ ∃ line, repeated = [line] ∧ declared? line = none ∧
      identifier? line = some statement.identifier.toList) :
    Declares (declaration :: repeated) [statement] := by
  refine ⟨?_, fun before line after identifier hlines hidentifier => ?_⟩
  · have hfirst : Binding.declares declaration = true := Option.isSome_of_eq_some hdeclared
    rw [List.map_singleton, ← hdeclaration, List.filter_cons_of_pos hfirst]
    rcases hrepeated with rfl | ⟨line, rfl, hline, -⟩
    · rfl
    · have hsecond : ¬Binding.declares line = true := by simp [Binding.declares, hline]
      rw [List.filter_cons_of_neg hsecond, List.filter_nil]
  · rcases before with _ | ⟨first, before⟩
    · rw [← (List.cons.inj hlines).1, hnone] at hidentifier
      cases hidentifier
    · obtain ⟨hfirst, hbehind⟩ := List.cons.inj hlines
      rcases hrepeated with rfl | ⟨line', rfl, -, hline'⟩
      · simp at hbehind
      · rcases before with _ | ⟨second, before⟩
        · obtain ⟨rfl, -⟩ := List.cons.inj hbehind
          rw [hline'] at hidentifier
          cases hidentifier
          exact ⟨[], declaration, statement.template, by rw [hfirst]; rfl, hdeclared⟩
        · simp at hbehind

/-- The identifier of a tidy statement is read as it was written, and declares nothing. -/
theorem Statement.Tidy.identifier?_identifier {statement : Statement} (h : statement.Tidy) :
    declared? (Line.content ⟨1, statement.identifier⟩) = none ∧
      identifier? (Line.content ⟨1, statement.identifier⟩) =
        some statement.identifier.toList := by
  have hcontent : Line.content ⟨1, statement.identifier⟩ =
      ' ' :: ' ' :: statement.identifier.toList := by
    simp [Line.content, String.join]
  obtain ⟨n, hidentifier⟩ := h.identifier
  refine ⟨declared?_eq_none ?_, ?_⟩
  · rw [hidentifier, mark?_identifier]
    rfl
  · rw [hcontent, identifier?, if_pos h.isIdentifier]

/-- Nothing is declared in the lines behind the identifier of a tidy statement. -/
theorem Statement.Tidy.declares_directives {statement : Statement} (h : statement.Tidy) :
    Declares ((statement.directives.map fun (directive : Directive) =>
      Line.content ⟨2, directive.line statement.qualified⟩) ++ [Line.content ⟨2, ";"⟩]) [] := by
  refine declares_nil (List.forall_mem_append.mpr ⟨List.forall_mem_map.mpr fun directive _ => ?_,
    List.forall_mem_singleton.mpr ⟨by decide, identifier?_content_two ";"⟩⟩)
  exact ⟨declared?_directive directive h.begins, identifier?_content_two _⟩

/-- The lines of a tidy statement declare its identifier. -/
theorem Statement.Tidy.declares {statement : Statement} (h : statement.Tidy) :
    Declares (statement.lines.map Line.content) [statement] := by
  have hdeclared := declared?_declaration statement h.space_not_mem
  have hnone := identifier?_declaration statement
  rw [lines, List.map_cons]
  split
  · have hopening := declares_declaration rfl hdeclared hnone
      (.inr ⟨_, rfl, h.identifier?_identifier⟩)
    have hall := hopening.append h.declares_directives
    rw [List.append_nil] at hall
    rw [List.cons_append, List.map_cons, List.map_append, List.map_map]
    exact hall
  · exact declares_declaration rfl hdeclared hnone (.inl rfl)

/-- The lines of a tidy block declare the identifiers of its statements. -/
theorem Block.Tidy.declares {block : Block} (h : block.Tidy) :
    Declares (block.lines.map Line.content) block.statements := by
  have hcomment : Declares [Line.content ⟨1, "// namespace " ++ block.name⟩] [] := by
    refine declares_nil (List.forall_mem_singleton.mpr ⟨?_, identifier?_comment block.name⟩)
    exact declared?_eq_none (by rw [mark?_comment]; rfl)
  have hstatements : Declares ((block.statements.flatMap Statement.lines).map Line.content)
      block.statements := by
    rw [List.map_flatMap]
    have hall := Declares.flatMap fun statement hstatement =>
      (h.statements statement hstatement).declares
    rwa [List.flatMap_singleton'] at hall
  exact hcomment.append hstatements

/-- The lines of a tidy listing declare the identifiers of its statements. -/
theorem Listing.Tidy.declares {listing : Listing} (h : listing.Tidy) :
    Declares (listing.lines.map Line.content) listing.statements := by
  have hfixed (text : String)
      (htext : (mark? (Line.content ⟨0, text⟩)).bind Mark.template? = none ∧
        identifier? (Line.content ⟨0, text⟩) = none) : Declares [Line.content ⟨0, text⟩] [] :=
    declares_nil (List.forall_mem_singleton.mpr ⟨declared?_eq_none htext.1, htext.2⟩)
  have hfunction : Declares [Line.content ⟨0, listing.function ++ "()"⟩] [] := by
    refine hfixed _ ⟨?_, identifier?_of_head? h.head?_function⟩
    rw [mark?_eq_none_of_head? h.head?_function]
    rfl
  have hblocks : Declares ((listing.blocks.flatMap Block.lines).map Line.content)
      listing.statements := by
    rw [List.map_flatMap]
    exact .flatMap fun block hblock => (h.blocks block hblock).declares
  have hlines := (((hfixed "static void" (by decide)).append hfunction).append
    (hfixed "\x7b" (by decide))).append (hblocks.append (hfixed "\x7d" (by decide)))
  simp only [List.append_nil, List.nil_append] at hlines
  rwa [lines, List.append_assoc, List.map_append, List.map_append]

end Bindery.Binding
