import Bindery.Proofs.Binding.Closing
import Bindery.Proofs.Binding.Contents
import Bindery.Proofs.Binding.Functions
import Bindery.Proofs.Binding.Reserved
import Bindery.Proofs.Binding.Tally

/-!
# Reading the code

The code of a listing can be read back. Its lines are read from the last to the first, so that all
that belongs to a declaration or to a namespace is known when its line is reached. How a line is
read shows in how it begins; only a line for a member has to be compared with the one that would
have been written for it, as members that are reached by two pointers have longer lines.
-/

namespace Bindery

namespace Binding

/-- What is left of a text without as many characters at its ends as two other texts have. -/
def within (front back text : List Char) : List Char :=
  (text.drop front.length).take (text.length - front.length - back.length)

/-- Between its two ends stands the rest of a text. -/
theorem within_append (front middle back : List Char) :
    within front back (front ++ (middle ++ back)) = middle := by
  have hlength : (front ++ (middle ++ back)).length - front.length - back.length =
      middle.length := by
    simp only [List.length_append]
    omega
  rw [within, hlength, List.drop_left, List.take_left]

/-- What stands between the first two quotes of a line. -/
def quoted (line : List Char) : List Char :=
  (Text.fields (· == '"') line)[1]?.getD []

/-- A name without quotes is read from between the quotes. -/
theorem quoted_append {before name : List Char} (hbefore : '"' ∉ before) (hname : '"' ∉ name)
    (after : List Char) : quoted (before ++ '"' :: (name ++ '"' :: after)) = name := by
  rw [quoted, Text.fields_append_cons (by rfl), Text.fields_append_cons (by rfl),
    Text.fields_of_not_mem hbefore, Text.fields_of_not_mem hname]
  rfl

/-- The directive that a line stands for in the statement about a qualified name. -/
def directiveOf (qualified : String) (line : List Char) : Directive :=
  let name := String.ofList (quoted line)
  match mark? line with
  | some .base => .inherit (String.ofList (within Mark.base.text.toList " >()".toList line))
  | some .member =>
    if line = Line.content ⟨2, (Directive.member name).line qualified⟩ then .member name
    else .accessor name
  | _ => .value name

/-- The line for a base has the base between two fixed texts. -/
theorem Directive.content_inherit (base qualified : String) :
    Line.content ⟨2, (Directive.inherit base).line qualified⟩ =
      Mark.base.text.toList ++ (base.toList ++ " >()".toList) := by
  simp [Line.content, line_inherit, Mark.text, String.join]

/-- In every other line for a directive, the first two quotes are those around the name. -/
theorem Directive.exists_content_quoted {directive : Directive} {qualified : String}
    (hkind : directive.mark? ≠ some .base) (hqualified : '"' ∉ qualified.toList)
    (hname : '"' ∉ directive.name.toList) :
    ∃ before after, '"' ∉ before ∧ Line.content ⟨2, directive.line qualified⟩ =
      "    .set (".toList ++ before ++ '"' :: (directive.name.toList ++ '"' :: after) := by
  cases directive with
  | inherit base => exact absurd rfl hkind
  | member name =>
    refine ⟨[], (", &" ++ qualified ++ "::" ++ name ++ ")").toList, List.not_mem_nil, ?_⟩
    simp [Line.content, line_member, String.join, Directive.name]
  | accessor name =>
    refine ⟨[], (", &" ++ qualified ++ "::" ++ name ++ ", &" ++ qualified ++ "::" ++ name ++
      ")").toList, List.not_mem_nil, ?_⟩
    simp [Line.content, line_accessor, String.join, Directive.name]
  | value name =>
    refine ⟨(qualified ++ "::" ++ name ++ ", ").toList, ")".toList, ?_, ?_⟩
    · simpa [Directive.name] using ⟨hqualified, hname⟩
    · simp [Line.content, line_value, String.join, Directive.name]

/-- The line for a member that is reached by two pointers is longer than the one for a member of
this name that is reached by one. -/
theorem Directive.content_accessor_ne (name qualified : String) :
    Line.content ⟨2, (Directive.accessor name).line qualified⟩ ≠
      Line.content ⟨2, (Directive.member name).line qualified⟩ := by
  intro h
  have hlength := congrArg List.length h
  simp only [Line.content, line_accessor, line_member, String.toList_append,
    List.length_append] at hlength
  have hpointer : (", &".toList).length = 3 := rfl
  omega

/-- The line for a directive is read as the directive that it was written for. -/
theorem directiveOf_content {directive : Directive} {qualified : String}
    (hbegins : "::".toList <+: qualified.toList) (hqualified : '"' ∉ qualified.toList)
    (hname : '"' ∉ directive.name.toList) :
    directiveOf qualified (Line.content ⟨2, directive.line qualified⟩) = directive := by
  have hquoted (hkind : directive.mark? ≠ some .base) :
      String.ofList (quoted (Line.content ⟨2, directive.line qualified⟩)) = directive.name := by
    obtain ⟨before, after, hbefore, hcontent⟩ :=
      directive.exists_content_quoted hkind hqualified hname
    have hset : '"' ∉ "    .set (".toList ++ before := by simpa using hbefore
    rw [hcontent, quoted_append hset hname, String.ofList_toList]
  rw [directiveOf, mark?_directive directive hbegins]
  cases directive with
  | inherit base =>
    simp only [Directive.mark?]
    rw [Directive.content_inherit, within_append, String.ofList_toList]
  | member name =>
    have hself := hquoted (by simp [Directive.mark?])
    simp only [Directive.mark?, hself, Directive.name, if_true]
  | accessor name =>
    have hself := hquoted (by simp [Directive.mark?])
    simp only [Directive.mark?, hself, Directive.name]
    rw [if_neg (Directive.content_accessor_ne name qualified)]
  | value name =>
    have hself := hquoted (by simp [Directive.mark?])
    simp only [Directive.mark?, hself, Directive.name]

/-- A statement that has no quotes in the names that it goes by. -/
structure Statement.Unquoted (statement : Statement) : Prop where
  /-- The qualified name. -/
  qualified : '"' ∉ statement.qualified.toList
  /-- The names of the directives. -/
  directives : ∀ directive ∈ statement.directives, '"' ∉ directive.name.toList

/-- What the last lines of a code tell. -/
structure Reading where
  /-- The lines for directives that stand in front, behind a declaration that is still to come. -/
  pending : List (List Char)
  /-- The statements behind them, in a block whose comment is still to come. -/
  statements : List Statement
  /-- The blocks behind these. -/
  blocks : List Block
  deriving DecidableEq, Repr

/-- What the lines tell together with one more line in front of them. -/
def Reading.after (line : List Char) (later : Reading) : Reading :=
  if mark? line = some .block then
    ⟨[], [], ⟨String.ofList (line.drop Mark.block.text.toList.length), later.statements⟩ ::
      later.blocks⟩
  else match declared? line with
    | some (template, identifier) =>
      let behind := " > ".toList ++ (identifier ++ [';'])
      let qualified := String.ofList (within template.mark.text.toList behind line)
      ⟨[], ⟨template, qualified, String.ofList identifier,
        later.pending.map (directiveOf qualified)⟩ :: later.statements, later.blocks⟩
    | none =>
      if isDirectiveLine line then { later with pending := line :: later.pending } else later

/-- The registration function that a code is the text of. -/
def Listing.read (code : String) : Listing :=
  let lines := linesOf code
  ⟨String.ofList ((lines.filterMap function?).headD []),
    (lines.foldr Reading.after ⟨[], [], []⟩).blocks⟩

namespace Reading

variable {line : List Char} {pending : List (List Char)} {statements : List Statement}
  {blocks : List Block}

/-- A line that tells of nothing registered changes nothing. -/
theorem after_of_mark?_eq_none (hmark : mark? line = none) (hline : isDirectiveLine line = false)
    (later : Reading) : after line later = later := by
  have hdeclared : declared? line = none := declared?_eq_none (by rw [hmark]; rfl)
  rw [after, hmark, hdeclared, hline]
  rfl

/-- The line for a directive stays pending. -/
theorem after_directive (directive : Directive) {qualified : String}
    (hbegins : "::".toList <+: qualified.toList) :
    after (Line.content ⟨2, directive.line qualified⟩) ⟨pending, statements, blocks⟩ =
      ⟨Line.content ⟨2, directive.line qualified⟩ :: pending, statements, blocks⟩ := by
  have hother : directive.mark? ≠ some .block := by
    cases directive <;> simp [Directive.mark?]
  rw [after, mark?_directive directive hbegins, if_neg hother, declared?_directive directive hbegins,
    directive.isDirectiveLine_content qualified]
  rfl

/-- A declaration makes a statement of the directives that are pending. -/
theorem after_declaration {statement : Statement} (h : statement.Tidy) :
    after (Line.content ⟨1, statement.declaration⟩) ⟨pending, statements, blocks⟩ =
      ⟨[], { statement with directives := pending.map (directiveOf statement.qualified) } ::
        statements, blocks⟩ := by
  have hdeclared := declared?_declaration statement h.space_not_mem
  have hmark := mark?_declaration statement
  have hother : some statement.template.mark ≠ some Mark.block := by
    cases statement.template <;> decide
  have hqualified : String.ofList (within statement.template.mark.text.toList
      (" > ".toList ++ (statement.identifier.toList ++ [';']))
      (Line.content ⟨1, statement.declaration⟩)) = statement.qualified := by
    rw [statement.content_declaration, within_append, String.ofList_toList]
  rw [after, hmark, if_neg hother, hdeclared]
  simp only [hqualified, String.ofList_toList]

/-- The comment with the name of a namespace makes a block of the statements so far. -/
theorem after_comment (name : String) :
    after (Line.content ⟨1, "// namespace " ++ name⟩) ⟨pending, statements, blocks⟩ =
      ⟨[], [], ⟨name, statements⟩ :: blocks⟩ := by
  rw [after, mark?_comment, if_pos rfl, content_comment, List.drop_left, String.ofList_toList]

/-- The lines for directives are all pending until their declaration is reached. -/
theorem foldr_directives (statements : List Statement) (blocks : List Block) {qualified : String}
    (hbegins : "::".toList <+: qualified.toList) (directives : List Directive) :
    (directives.map fun directive =>
        Line.content ⟨2, directive.line qualified⟩).foldr after ⟨[], statements, blocks⟩ =
      ⟨directives.map fun directive => Line.content ⟨2, directive.line qualified⟩, statements,
        blocks⟩ := by
  induction directives with
  | nil => rfl
  | cons directive rest ih =>
    rw [List.map_cons, List.foldr_cons, ih, after_directive directive hbegins]

/-- The lines of a statement are read as the statement. -/
theorem foldr_statement {statement : Statement} (h : statement.Tidy)
    (hquotes : statement.Unquoted) :
    (statement.lines.map Line.content).foldr after ⟨[], statements, blocks⟩ =
      ⟨[], statement :: statements, blocks⟩ := by
  have hread : (statement.directives.map fun directive => Line.content
      ⟨2, directive.line statement.qualified⟩).map (directiveOf statement.qualified) =
        statement.directives := by
    rw [List.map_map]
    refine (List.map_congr_left fun directive hdirective => ?_).trans (List.map_id _)
    exact directiveOf_content h.begins hquotes.qualified (hquotes.directives directive hdirective)
  obtain ⟨-, hidentifier⟩ := h.identifier?_identifier
  obtain ⟨n, hnumbered⟩ := h.identifier
  have hmark : mark? (Line.content ⟨1, statement.identifier⟩) = none := by
    rw [hnumbered, mark?_identifier]
  have hclosing (later : Reading) : after (Line.content ⟨2, ";"⟩) later = later :=
    after_of_mark?_eq_none (by decide) (by decide) later
  have hdirectives := foldr_directives statements blocks h.begins statement.directives
  rw [Statement.lines]
  split
  · simp only [List.map_cons, List.cons_append, List.map_append, List.map_map, List.map_nil,
      List.foldr_cons, List.foldr_append, List.foldr_nil, hclosing, Function.comp_def]
    rw [hdirectives, after_of_mark?_eq_none hmark (isDirectiveLine_of_identifier? hidentifier),
      after_declaration h, hread]
  next hstop =>
    have hempty := Statement.directives_eq_nil hstop
    rw [List.map_cons, List.map_nil, List.foldr_cons, List.foldr_nil, after_declaration h,
      List.map_nil, ← hempty]

/-- Where the lines of each item are read as the item, those of all items are read as the items.
What is known while they are read depends on the items that come behind. -/
theorem foldr_flatMap {α : Type} (known : List α → Reading) {lines : α → List Line}
    {items : List α} (h : ∀ a ∈ items, ∀ later,
      ((lines a).map Line.content).foldr after (known later) = known (a :: later))
    (later : List α) :
    ((items.flatMap lines).map Line.content).foldr after (known later) = known
    (items ++ later) := by
  induction items with
  | nil => rfl
  | cons a rest ih =>
    rw [List.forall_mem_cons] at h
    rw [List.flatMap_cons, List.map_append, List.foldr_append, ih h.2, h.1, List.cons_append]

/-- The lines of a block are read as the block. -/
theorem foldr_block {block : Block} (h : block.Tidy)
    (hquotes : ∀ statement ∈ block.statements, statement.Unquoted) :
    (block.lines.map Line.content).foldr after ⟨[], [], blocks⟩ = ⟨[], [], block :: blocks⟩ := by
  have hstatements := foldr_flatMap (⟨[], ·, blocks⟩) (fun statement hmem _ =>
    foldr_statement (h.statements statement hmem) (hquotes statement hmem)) []
  rw [Block.lines, List.map_cons, List.foldr_cons, hstatements, after_comment, List.append_nil]

end Reading

/-- The code of a tidy listing without quotes is read as the listing. -/
theorem Listing.Tidy.read_render {listing : Listing} (h : listing.Tidy)
    (hquotes : ∀ block ∈ listing.blocks, ∀ statement ∈ block.statements, statement.Unquoted) :
    Listing.read listing.render = listing := by
  have hlast (later : Reading) : Reading.after [] later = later :=
    Reading.after_of_mark?_eq_none (by decide) (by decide) later
  have hflat (text : String) (htext : (Line.content ⟨0, text⟩).head? ≠ some ' ')
      (later : Reading) : Reading.after (Line.content ⟨0, text⟩) later = later :=
    Reading.after_of_mark?_eq_none (mark?_eq_none_of_head? htext) (isDirectiveLine_of_head? htext)
      later
  have hblocks := Reading.foldr_flatMap (⟨[], [], ·⟩) (fun block hmem _ =>
    Reading.foldr_block (h.blocks block hmem) (hquotes block hmem)) []
  have hlines : (linesOf listing.render).foldr Reading.after ⟨[], [], []⟩ =
      ⟨[], [], listing.blocks⟩ := by
    rw [linesOf_render h, lines]
    simp only [List.map_append, List.map_cons, List.map_nil, List.foldr_append, List.foldr_cons,
      List.foldr_nil, hlast, hblocks, List.append_nil, hflat _ h.head?_function,
      hflat "static void" (by decide), hflat "\x7b" (by decide), hflat "\x7d" (by decide)]
  rw [Listing.read]
  simp only [hlines]
  rw [linesOf_render h, List.filterMap_append, h.filterMap_function?, List.singleton_append,
    List.headD_cons, String.ofList_toList]

example : Listing.read (String.join ["static void\n", "f()\n", "\x7b\n", "  // namespace a\n",
    "  ::Jsonipc::Class< ::a::C > class_1;\n", "  class_1\n", "    .inherit< ::a::B >()\n",
    "    .set (\"x\", &::a::C::x, &::a::C::x)\n", "    ;\n", "\x7d\n"]) =
      ⟨"f", [⟨"a", [⟨.object, "::a::C", "class_1", [.inherit "::a::B", .accessor "x"]⟩]⟩]⟩ := by
  rw [Listing.read, linesOf, String.toList_join]
  decide +kernel

end Binding

namespace TranslationUnit

open Binding

variable {unit : TranslationUnit} {options : Options}

/-- Where no declared name has a quote, no name that is registered has one. -/
theorem NamesLack.unquoted (h : unit.NamesLack '"') (base : Option Path) (file : Path)
    (options : Options) (counter : Counter) :
    ∀ block ∈ ((Generated.ofDrafts options file
        (unit.drafts base options)).run counter).1.listing.blocks,
      ∀ statement ∈ block.statements, statement.Unquoted := by
  have hqualified (n : NodeId) : '"' ∉ (unit.scopedName n).toList := h.scopedName (by decide) n
  refine forall_mem_of_forall₂ (madeInto_ofDrafts options file _ counter)
    fun draft hdraft block hmade => ?_
  obtain ⟨scope, _, rfl⟩ := List.mem_map.mp hdraft
  obtain ⟨-, enumerations, classes, hstatements, henumerations, hclasses⟩ := hmade
  rw [boundClasses_namespaceDraft] at hclasses
  rw [hstatements, List.forall_mem_append]
  constructor
  · refine forall_mem_of_forall₂ henumerations fun draft hdraft statement hmade => ?_
    obtain ⟨n, _, rfl⟩ := List.mem_map.mp hdraft
    obtain ⟨number, rfl⟩ := hmade
    exact ⟨hqualified n, List.forall_mem_map.mpr (h.values n)⟩
  · refine forall_mem_of_forall₂ hclasses fun draft hdraft statement hmade => ?_
    obtain ⟨n, _, rfl⟩ := List.mem_map.mp hdraft
    obtain ⟨number, rfl⟩ := hmade
    exact ⟨hqualified n, h.directives (by decide) options n⟩

/-- What is generated after any questions is read back from its code, if no declared name has a line
end or a quote. -/
theorem read_code (hnames : unit.NamesOneLine) (hquotes : unit.NamesLack '"')
    (hfunction : isIdentifier options.functionPrefix.toList = true) (base : Option Path)
    (file : Path) (counter : Counter) (journal : Array Log.Notice) (asked : List Question) :
    let generated :=
      ((unit.generate base file options counter).run (unit.sessionAfter journal asked)).1.1
    Listing.read generated.code = generated.listing := by
  rw [(answers_generate unit base file options counter _
    (sound_sessionAfter unit journal asked)).1]
  exact (hnames.tidy_listing hfunction base file counter).read_render
    (hquotes.unquoted base file options counter)

/-- The code that is generated after any questions can be read back if no declared name has a line
end or a quote. What is read is the listing that was generated, with an identifier for its function
and a block for each draft, which is to say for each namespace with the values, bases and members
that are bound. So what is generated elsewhere, for any translation unit of this sort, has the same
code only if it has the same listing. In the code, each list of directives is closed by a line of
its own before anything but a directive comes. -/
theorem generate_readable (hnames : unit.NamesOneLine) (hquotes : unit.NamesLack '"')
    (hfunction : isIdentifier options.functionPrefix.toList = true) (base : Option Path)
    (file : Path) (counter : Counter) (journal : Array Log.Notice) (asked : List Question) :
    let generated :=
      ((unit.generate base file options counter).run (unit.sessionAfter journal asked)).1.1
    Listing.read generated.code = generated.listing ∧
      generated.listing.function = functionName options file ∧
      isIdentifier generated.listing.function.toList = true ∧
      List.Forall₂ NamespaceDraft.MadeInto (unit.drafts base options) generated.listing.blocks ∧
      List.Forall₂ (unit.ListsNamespace base options) (unit.selectedNamespaces options)
        generated.listing.blocks ∧
      (∀ (unit' : TranslationUnit) (options' : Options) (base' : Option Path) (file' : Path)
          (counter' : Counter) (journal' : Array Log.Notice) (asked' : List Question),
        unit'.NamesOneLine → unit'.NamesLack '"' →
          isIdentifier options'.functionPrefix.toList = true →
            let other := ((unit'.generate base' file' options' counter').run
              (unit'.sessionAfter journal' asked')).1.1
            other.code = generated.code → other.listing = generated.listing) ∧
      Closed (linesOf generated.code) := by
  intro generated
  have hread : Listing.read generated.code = generated.listing :=
    read_code hnames hquotes hfunction base file counter journal asked
  have hgenerated : generated =
      ((Generated.ofDrafts options file (unit.drafts base options)).run counter).1 :=
    congrArg Prod.fst (answers_generate unit base file options counter _
      (sound_sessionAfter unit journal asked)).1
  have htidy : generated.listing.Tidy :=
    hgenerated ▸ hnames.tidy_listing hfunction base file counter
  refine ⟨hread, ?_, htidy.function, ?_, ?_, ?_, htidy.closed_render⟩
  · rw [hgenerated]
    rfl
  · rw [hgenerated]
    exact madeInto_ofDrafts options file _ counter
  · rw [hgenerated]
    exact unit.listsNamespace_ofDrafts base options file counter
  · intro unit' options' base' file' counter' journal' asked' hnames' hquotes' hfunction' other hcode
    have hread' : Listing.read other.code = other.listing :=
      read_code hnames' hquotes' hfunction' base' file' counter' journal' asked'
    rw [← hread', hcode, hread]

/-- The code for a class with a field, an accessor and an ambiguous method is read back. -/
theorem generate_overloadedClass_readable :
    let generated := ((overloadedClass.generate (some ⟨"/"⟩) ⟨"a.hh"⟩ ⟨["a"], none, "bind_"⟩
      ⟨1001⟩).run (overloadedClass.sessionAfter #[] [])).1.1
    Listing.read generated.code = generated.listing ∧ Closed (linesOf generated.code) := by
  obtain ⟨hread, -, -, -, -, -, hclosed⟩ := generate_readable
    (by decide : overloadedClass.NamesOneLine) (by decide : overloadedClass.NamesLack '"')
    (by decide : isIdentifier (⟨["a"], none, "bind_"⟩ : Options).functionPrefix.toList = true)
    (some ⟨"/"⟩) ⟨"a.hh"⟩ ⟨1001⟩ #[] []
  exact ⟨hread, hclosed⟩

end TranslationUnit

end Bindery
