import Bindery.Proofs.Binding.Tidy
import Bindery.Proofs.Text.Fields

/-!
# The lines of the code

The code of a tidy listing falls into the lines of the listing. What a line is about shows in how it
begins: the six marks are the beginnings of the lines that name a namespace, declare a statement or
register a base or a member. So the marks can be read off the text, and they are those that the
listing was put together from.
-/

namespace Bindery.Binding

/-- The lines of a code: what stands between its line ends. -/
def linesOf (code : String) : List (List Char) :=
  Text.fields (· == '\n') code.toList

/-- The number of lines of a code that begin with one of the given texts. -/
def countLines (starts : List String) (code : String) : Nat :=
  (linesOf code).countP fun line => starts.any fun start => start.toList.isPrefixOf line

/-- How a line can begin that tells of something registered. -/
inductive Mark where
  /-- The comment with the name of a namespace. -/
  | block
  /-- The declaration for an enumeration. -/
  | enumeration
  /-- The declaration for a class that is not passed by value. -/
  | object
  /-- The declaration for a class that is passed by value. -/
  | plainData
  /-- A base of a class. -/
  | base
  /-- A member of a class. -/
  | member
  deriving DecidableEq, Repr

namespace Mark

/-- The beginning of the line. -/
def text : Mark → String
  | .block => "  // namespace "
  | .enumeration => "  ::Jsonipc::Enum< "
  | .object => "  ::Jsonipc::Class< "
  | .plainData => "  ::Jsonipc::Serializable< "
  | .base => "    .inherit< "
  | .member => "    .set (\""

/-- All marks. -/
def all : List Mark :=
  [.block, .enumeration, .object, .plainData, .base, .member]

/-- No mark is missing from the list. -/
theorem mem_all (mark : Mark) : mark ∈ all := by
  cases mark <;> decide

/-- The line begins with the mark. -/
def Begins (mark : Mark) (line : List Char) : Prop :=
  mark.text.toList <+: line

instance (mark : Mark) (line : List Char) : Decidable (mark.Begins line) :=
  inferInstanceAs (Decidable (mark.text.toList <+: line))

/-- A line begins with one mark at most. -/
theorem Begins.unique {mark mark' : Mark} {line : List Char} (h : mark.Begins line)
    (h' : mark'.Begins line) : mark = mark' := by
  have hapart : ∀ a ∈ all, ∀ b ∈ all, a.text.toList <+: b.text.toList → a = b := by decide
  rcases List.prefix_or_prefix_of_prefix h h' with hprefix | hprefix
  · exact hapart mark mark.mem_all mark' mark'.mem_all hprefix
  · exact (hapart mark' mark'.mem_all mark mark.mem_all hprefix).symm

end Mark

/-- The mark that a line begins with. -/
def mark? (line : List Char) : Option Mark :=
  Mark.all.find? fun mark => mark.Begins line

/-- The mark of a line is the one that it begins with. -/
theorem mark?_eq_some_iff {line : List Char} {mark : Mark} :
    mark? line = some mark ↔ mark.Begins line := by
  constructor
  · intro h
    simpa using List.find?_some h
  · intro h
    have hsome : (mark? line).isSome = true :=
      List.find?_isSome.mpr ⟨mark, mark.mem_all, decide_eq_true h⟩
    obtain ⟨found, hfound⟩ := Option.isSome_iff_exists.mp hsome
    have hbegins : found.Begins line := by simpa using List.find?_some hfound
    rw [hfound, hbegins.unique h]

/-- A line has no mark if it begins with a text that parts from every mark. -/
theorem mark?_eq_none {line : List Char} (start : List Char) (hstart : start <+: line)
    (hparts : ∀ mark ∈ Mark.all, ¬mark.text.toList <+: start ∧ ¬start <+: mark.text.toList) :
    mark? line = none := by
  refine Option.eq_none_iff_forall_ne_some.mpr fun mark hmark => ?_
  have hbegins := mark?_eq_some_iff.mp hmark
  rcases List.prefix_or_prefix_of_prefix hbegins hstart with hprefix | hprefix
  · exact (hparts mark mark.mem_all).1 hprefix
  · exact (hparts mark mark.mem_all).2 hprefix

/-- A line that is not indented has no mark. -/
theorem mark?_eq_none_of_head? {line : List Char} (h : line.head? ≠ some ' ') :
    mark? line = none := by
  refine Option.eq_none_iff_forall_ne_some.mpr fun mark hmark => h ?_
  obtain ⟨rest, rfl⟩ := mark?_eq_some_iff.mp hmark
  cases mark <;> simp [Mark.text]

/-- The characters of a line, without its end. -/
def Line.content (line : Line) : List Char :=
  (String.join (List.replicate line.depth "  ") ++ line.text).toList

/-- No line end stands within a line, as indentation has none. -/
theorem Line.not_mem_content {line : Line} (h : OneLine line.text) : '\n' ∉ line.content := by
  have hindent : '\n' ∉ (String.join (List.replicate line.depth "  ")).toList := by
    simp [List.mem_flatMap]
  rw [content, String.toList_append, List.mem_append]
  exact not_or.mpr ⟨hindent, h⟩

/-- Lines that are written one after the other can be told apart again, and there is nothing behind
the last line end. -/
theorem linesOf_join {lines : List Line} (h : ∀ line ∈ lines, OneLine line.text) :
    linesOf (String.join (lines.map Line.render)) = lines.map Line.content ++ [[]] := by
  induction lines with
  | nil => rfl
  | cons line rest ih =>
    rw [List.forall_mem_cons] at h
    have hcode : (String.join ((line :: rest).map Line.render)).toList =
        line.content ++ '\n' :: (String.join (rest.map Line.render)).toList := by
      simp [Line.render, Line.content]
    have hrest := ih h.2
    rw [linesOf] at hrest ⊢
    rw [hcode, Text.fields_append_cons (by rfl), Text.fields_of_not_mem (Line.not_mem_content h.1),
      hrest]
    rfl

/-- The code of a tidy listing falls into its lines. -/
theorem linesOf_render {listing : Listing} (h : listing.Tidy) :
    linesOf listing.render = listing.lines.map Line.content ++ [[]] :=
  linesOf_join h.oneLine_lines

/-- The mark of the line for a directive. -/
def Directive.mark? : Directive → Option Mark
  | .inherit _ => some .base
  | .member _ => some .member
  | .accessor _ => some .member
  | .value _ => none

/-- The mark of the declaration with a template. -/
def Template.mark : Template → Mark
  | .enumeration => .enumeration
  | .plainData => .plainData
  | .object => .object

/-- The marks of a statement: that of its declaration, then those of its directives. -/
def Statement.marks (statement : Statement) : List Mark :=
  statement.template.mark :: statement.directives.filterMap Directive.mark?

/-- The marks of a block. -/
def Block.marks (block : Block) : List Mark :=
  .block :: block.statements.flatMap Statement.marks

/-- The marks of a listing. -/
def Listing.marks (listing : Listing) : List Mark :=
  listing.blocks.flatMap Block.marks

/-- A line that begins with a mark and goes on in any way has that mark. -/
theorem mark?_append (mark : Mark) (rest : List Char) :
    mark? (mark.text.toList ++ rest) = some mark :=
  mark?_eq_some_iff.mpr (List.prefix_append _ _)

/-- The comment of a block is its mark and the name of the namespace. -/
theorem content_comment (name : String) :
    Line.content ⟨1, "// namespace " ++ name⟩ = Mark.block.text.toList ++ name.toList := by
  simp [Line.content, Mark.text, String.join]

/-- The comment of a block is marked as such. -/
theorem mark?_comment (name : String) :
    mark? (Line.content ⟨1, "// namespace " ++ name⟩) = some .block := by
  rw [content_comment, mark?_append]

/-- A declaration is the mark of its template, the qualified name, and the identifier. -/
theorem Statement.content_declaration (statement : Statement) :
    Line.content ⟨1, statement.declaration⟩ = statement.template.mark.text.toList ++
      (statement.qualified.toList ++ (" > ".toList ++ (statement.identifier.toList ++ [';']))) := by
  cases htemplate : statement.template <;>
    simp [Line.content, statement.declaration_eq, Template.mark, Template.name, Mark.text,
      String.join, htemplate]

/-- A declaration has the mark of its template. -/
theorem mark?_declaration (statement : Statement) :
    mark? (Line.content ⟨1, statement.declaration⟩) = some statement.template.mark := by
  rw [statement.content_declaration, mark?_append]

/-- The line with an identifier alone has no mark. -/
theorem mark?_identifier (template : Template) (n : Nat) :
    mark? (Line.content ⟨1, numbered template.word n⟩) = none := by
  refine mark?_eq_none ("  " ++ template.word).toList ⟨("_" ++ toString n).toList, ?_⟩ ?_
  · simp [Line.content, numbered, String.join]
  · cases template <;> decide

/-- The line for a directive has the mark of the directive. The values of an enumeration are written
behind a qualified name, not in quotes. -/
theorem mark?_directive (directive : Directive) {qualified : String}
    (hqualified : "::".toList <+: qualified.toList) :
    mark? (Line.content ⟨2, directive.line qualified⟩) = directive.mark? := by
  have hmark (mark : Mark) (key rest : String) (hkey : "    " ++ key = mark.text)
      (hline : directive.line qualified = key ++ rest) :
      mark? (Line.content ⟨2, directive.line qualified⟩) = some mark := by
    have hcontent : Line.content ⟨2, directive.line qualified⟩ =
        mark.text.toList ++ rest.toList := by
      simp [Line.content, String.join, hline, ← hkey]
    rw [hcontent, mark?_append]
  cases directive with
  | inherit base => exact hmark .base _ _ (by decide) (Directive.line_inherit qualified base)
  | member name => exact hmark .member _ _ (by decide) (Directive.line_member qualified name)
  | accessor name => exact hmark .member _ _ (by decide) (Directive.line_accessor qualified name)
  | value name =>
    obtain ⟨rest, hrest⟩ := hqualified
    refine mark?_eq_none "    .set (::".toList
      ⟨rest ++ ("::" ++ name ++ ", \"" ++ name ++ "\")").toList, ?_⟩ (by decide)
    simp [Line.content, Directive.line_value, String.join, ← hrest]

/-- A statement that does not go on has no directives. -/
theorem Statement.directives_eq_nil {statement : Statement} (h : ¬statement.goesOn = true) :
    statement.directives = [] := by
  simp only [goesOn, Bool.or_eq_true, Bool.not_eq_true', not_or] at h
  simpa using h.2

/-- The marks in the lines of a statement are those of the statement. -/
theorem Statement.Tidy.filterMap_mark? {statement : Statement} (h : statement.Tidy) :
    (statement.lines.map Line.content).filterMap mark? = statement.marks := by
  obtain ⟨n, hidentifier⟩ := h.identifier
  have hdirectives : (statement.directives.map fun directive =>
      (⟨2, directive.line statement.qualified⟩ : Line).content).filterMap mark? =
        statement.directives.filterMap Directive.mark? := by
    rw [List.filterMap_map]
    exact List.filterMap_congr fun directive _ => mark?_directive directive h.begins
  have hend : mark? (Line.content ⟨2, ";"⟩) = none := by decide
  rw [lines, marks, List.map_cons, List.filterMap_cons_some (mark?_declaration statement)]
  congr 1
  split
  · rw [List.cons_append, List.map_cons, hidentifier,
      List.filterMap_cons_none (mark?_identifier statement.template n), List.map_append,
      List.filterMap_append, List.map_map, List.map_singleton, List.filterMap_cons_none hend]
    simp only [Function.comp_def, hdirectives, List.filterMap_nil, List.append_nil]
  next hstop =>
    rw [Statement.directives_eq_nil hstop]
    rfl

/-- The marks in the lines of a block are those of the block. -/
theorem Block.Tidy.filterMap_mark? {block : Block} (h : block.Tidy) :
    (block.lines.map Line.content).filterMap mark? = block.marks := by
  rw [lines, marks, List.map_cons, List.filterMap_cons_some (mark?_comment block.name),
    List.map_flatMap, List.filterMap_flatMap]
  congr 1
  exact List.flatMap_congr fun statement hstatement =>
    (h.statements statement hstatement).filterMap_mark?

/-- The line with the name of the function is not indented. -/
theorem Listing.Tidy.head?_function {listing : Listing} (h : listing.Tidy) :
    (Line.content ⟨0, listing.function ++ "()"⟩).head? ≠ some ' ' := by
  have hname := h.function
  cases hchars : listing.function.toList with
  | nil =>
    rw [hchars] at hname
    cases hname
  | cons first rest =>
    rw [hchars, isIdentifier, Bool.and_eq_true] at hname
    have hcontent : Line.content ⟨0, listing.function ++ "()"⟩ =
        first :: (rest ++ "()".toList) := by
      simp [Line.content, String.join, hchars]
    rw [hcontent, List.head?_cons]
    rintro ⟨⟩
    exact absurd hname.1 (by decide)

/-- The marks in the lines of a listing are those of its blocks. -/
theorem Listing.Tidy.filterMap_mark? {listing : Listing} (h : listing.Tidy) :
    (listing.lines.map Line.content).filterMap mark? = listing.marks := by
  have hfunction : mark? (Line.content ⟨0, listing.function ++ "()"⟩) = none :=
    mark?_eq_none_of_head? h.head?_function
  have hopen : mark? (Line.content ⟨0, "\x7b"⟩) = none := by decide
  have hclose : mark? (Line.content ⟨0, "\x7d"⟩) = none := by decide
  have hstatic : mark? (Line.content ⟨0, "static void"⟩) = none := by decide
  have hblocks : (listing.blocks.flatMap fun block =>
      (block.lines.map Line.content).filterMap mark?) = listing.marks :=
    List.flatMap_congr fun block hblock => (h.blocks block hblock).filterMap_mark?
  simp only [lines, List.map_append, List.filterMap_append, List.map_cons, List.map_nil,
    List.filterMap_cons_none hstatic, List.filterMap_cons_none hfunction,
    List.filterMap_cons_none hopen, List.filterMap_cons_none hclose, List.map_flatMap,
    List.filterMap_flatMap, hblocks, List.filterMap_nil, List.nil_append, List.append_nil]

/-- Counting the lines of the code that begin with a mark counts the marks of the listing. -/
theorem countLines_render {listing : Listing} (h : listing.Tidy) (wanted : List Mark) :
    countLines (wanted.map Mark.text) listing.render = listing.marks.countP wanted.contains := by
  have hline (line : List Char) :
      ((wanted.map Mark.text).any fun start => start.toList.isPrefixOf line) =
        ((mark? line).map wanted.contains).getD false := by
    have hany : ((wanted.map Mark.text).any fun start => start.toList.isPrefixOf line) = true ↔
        ∃ mark ∈ wanted, mark? line = some mark := by
      simp only [List.any_map, List.any_eq_true, Function.comp_apply, List.isPrefixOf_iff_prefix,
        mark?_eq_some_iff, Mark.Begins]
    rw [Bool.eq_iff_iff, hany]
    cases mark? line with
    | none => simp
    | some found => simp
  have hempty : mark? [] = none := by decide
  rw [← h.filterMap_mark?, List.countP_filterMap, countLines, linesOf_render h, List.countP_append]
  simp only [hline]
  simp [hempty]

end Bindery.Binding
