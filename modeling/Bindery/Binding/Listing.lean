/-!
# Registration code

The generated code of one input file is a function whose body registers enumerations and classes
with the `Jsonipc` templates, one namespace after the other. A `Listing` is that code as data;
`Listing.render` writes it as text, one construct a line, indented by two spaces a level.
-/

namespace Bindery.Binding

/-- The template that a declaration is registered with. -/
inductive Template where
  /-- For enumerations. -/
  | enumeration
  /-- For classes that are passed by value. -/
  | plainData
  /-- For all other classes. -/
  | object
  deriving DecidableEq, Repr

/-- The name of a template. -/
def Template.name : Template → String
  | .enumeration => "Enum"
  | .plainData => "Serializable"
  | .object => "Class"

/-- The word that the identifiers of a template begin with. -/
def Template.word : Template → String
  | .enumeration => "enum"
  | .plainData => "serializable"
  | .object => "class"

/-- One part of a registration. -/
inductive Directive where
  /-- A base class, by its qualified name. -/
  | inherit (base : String)
  /-- A member that is reached by one pointer. -/
  | member (name : String)
  /-- A member that is reached by a pointer to its getter and one to its setter. -/
  | accessor (name : String)
  /-- A value of an enumeration. -/
  | value (name : String)
  deriving DecidableEq, Repr

/-- The line for a directive about the declaration of the given qualified name. -/
def Directive.line (qualified : String) : Directive → String
  | .inherit base => ".inherit< " ++ base ++ " >()"
  | .member name => ".set (\"" ++ name ++ "\", &" ++ qualified ++ "::" ++ name ++ ")"
  | .accessor name =>
    ".set (\"" ++ name ++ "\", &" ++ qualified ++ "::" ++ name ++ ", &" ++ qualified ++ "::"
      ++ name ++ ")"
  | .value name => ".set (" ++ qualified ++ "::" ++ name ++ ", \"" ++ name ++ "\")"

/-- The line for a base. -/
theorem Directive.line_inherit (qualified base : String) :
    (Directive.inherit base).line qualified = ".inherit< " ++ (base ++ " >()") :=
  String.append_assoc

/-- The line for a member that is reached by one pointer. -/
theorem Directive.line_member (qualified name : String) :
    (Directive.member name).line qualified =
      ".set (\"" ++ (name ++ ("\", &" ++ (qualified ++ ("::" ++ (name ++ ")"))))) := by
  unfold line
  simp only [String.append_assoc]

/-- The line for a member that is reached by two pointers. -/
theorem Directive.line_accessor (qualified name : String) :
    (Directive.accessor name).line qualified =
      ".set (\"" ++ (name ++ ("\", &" ++ (qualified ++ ("::" ++ (name ++ (", &" ++
        (qualified ++ ("::" ++ (name ++ ")"))))))))) := by
  unfold line
  simp only [String.append_assoc]

/-- The line for a value of an enumeration. -/
theorem Directive.line_value (qualified name : String) :
    (Directive.value name).line qualified =
      ".set (" ++ (qualified ++ ("::" ++ (name ++ (", \"" ++ (name ++ "\")"))))) := by
  unfold line
  simp only [String.append_assoc]

/-- The registration of one declaration. -/
structure Statement where
  /-- The template it is registered with. -/
  template : Template
  /-- Its qualified name. -/
  qualified : String
  /-- The identifier that the statement declares. -/
  identifier : String
  /-- What is registered about it. -/
  directives : List Directive
  deriving DecidableEq, Repr

/-- A line of code and how deep it is nested. -/
structure Line where
  /-- The level of nesting. -/
  depth : Nat
  /-- The text of the line. -/
  text : String
  deriving DecidableEq, Repr

/-- The line as text: two spaces a level, and a line end. -/
def Line.render (line : Line) : String :=
  String.join (List.replicate line.depth "  ") ++ line.text ++ "\n"

/-- The line that declares the identifier of a statement. -/
def Statement.declaration (statement : Statement) : String :=
  "::Jsonipc::" ++ statement.template.name ++ "< " ++ statement.qualified ++ " > "
    ++ statement.identifier ++ ";"

/-- The parts of the line that declares the identifier of a statement. -/
theorem Statement.declaration_eq (statement : Statement) :
    statement.declaration = "::Jsonipc::" ++ (statement.template.name ++
      ("< " ++ (statement.qualified ++ (" > " ++ (statement.identifier ++ ";"))))) := by
  unfold declaration
  simp only [String.append_assoc]

/-- A statement goes on behind its declaration if there is something to register. For an
enumeration it always does. -/
def Statement.goesOn (statement : Statement) : Bool :=
  statement.template == .enumeration || !statement.directives.isEmpty

/-- The lines of a statement, which stands inside a function. -/
def Statement.lines (statement : Statement) : List Line :=
  ⟨1, statement.declaration⟩ ::
    if statement.goesOn then
      ⟨1, statement.identifier⟩ ::
        (statement.directives.map fun directive => ⟨2, directive.line statement.qualified⟩)
        ++ [⟨2, ";"⟩]
    else []

/-- The statements for one namespace. -/
structure Block where
  /-- The name of the namespace. -/
  name : String
  /-- The statements in order. -/
  statements : List Statement
  deriving DecidableEq, Repr

/-- The lines of a block: a comment with the namespace, then the statements. -/
def Block.lines (block : Block) : List Line :=
  ⟨1, "// namespace " ++ block.name⟩ :: block.statements.flatMap Statement.lines

/-- The registration function of one input file. -/
structure Listing where
  /-- The name of the function. -/
  function : String
  /-- One block for each namespace. -/
  blocks : List Block
  deriving DecidableEq, Repr

/-- The lines of a registration function. -/
def Listing.lines (listing : Listing) : List Line :=
  [⟨0, "static void"⟩, ⟨0, listing.function ++ "()"⟩, ⟨0, "\x7b"⟩]
    ++ listing.blocks.flatMap Block.lines ++ [⟨0, "\x7d"⟩]

/-- A registration function as text. -/
def Listing.render (listing : Listing) : String :=
  String.join (listing.lines.map Line.render)

end Bindery.Binding
