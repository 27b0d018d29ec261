import Bindery.Text.Quoted

/-!
# Notices

What the program tells its log while it works. A notice is a constructor that carries what it is
about; `Notice.record` gives its level, its target, its wording and its named values.
-/

namespace Bindery.Log

/-- How important a notice is. -/
inductive Level where
  /-- The work cannot be done. -/
  | error
  /-- Something is left out of the result. -/
  | warn
  /-- Worth knowing. -/
  | info
  /-- Of use when looking for a fault. -/
  | debug
  /-- Every step. -/
  | trace
  deriving DecidableEq, Repr

/-- The word for a level. -/
def Level.name : Level → String
  | .error => "ERROR"
  | .warn => "WARN"
  | .info => "INFO"
  | .debug => "DEBUG"
  | .trace => "TRACE"

/-- A value attached to a notice. -/
inductive Value where
  /-- Text, shown between quotes. -/
  | quoted (text : String)
  /-- Text, shown as it is. -/
  | plain (text : String)
  /-- A number. -/
  | number (n : Nat)
  deriving DecidableEq, Repr

/-- The text of a value, without quotes. -/
def Value.text : Value → String
  | .quoted text => text
  | .plain text => text
  | .number n => toString n

/-- The value as a line of the log shows it. -/
def Value.shown : Value → String
  | .quoted text => Text.quoted text
  | .plain text => text
  | .number n => toString n

/-- A notice as the log keeps it. -/
structure Record where
  /-- How important it is. -/
  level : Level
  /-- The part of the program that speaks. -/
  target : String
  /-- What it says. -/
  message : String
  /-- What it says it about. -/
  values : List (String × Value)
  deriving DecidableEq, Repr

/-- What the program tells its log. -/
inductive Notice where
  /-- A translation unit was read. -/
  | unitRead (nodes top : Nat)
  /-- The scopes of a declaration lead back to the one with the given id. -/
  | scopeCycle (id : Option String)
  /-- A translation unit has no global namespace to start from. -/
  | noGlobalNamespace
  /-- A class lists a member that does not exist. -/
  | unknownMember (id : String)
  /-- A class lists a base that is no class. -/
  | unknownBase (token : String)
  /-- A base is declared outside the selected namespaces. -/
  | foreignBase (qualified : String)
  /-- A class is declared in another file than the one asked for. -/
  | foreignClass (qualified : String)
  /-- Several methods of a class have one name and cannot be told apart. -/
  | ambiguousMethod (qualified name : String)
  /-- The external parser is about to run. -/
  | parserStarts (command : List String)
  /-- An input file is ready to be worked on. -/
  | inputReady (file : String) (nodes : Nat)
  /-- No namespace is selected, so nothing will be bound. -/
  | nothingSelected
  deriving DecidableEq, Repr

/-- The target of notices about translation units. -/
def unitTarget : String := "castbind_ast::index"

/-- How a value that may be missing is shown. -/
def shownOption : Option String → String
  | some text => "Some(" ++ Text.quoted text ++ ")"
  | none => "None"

/-- What the log keeps of a notice. -/
def Notice.record : Notice → Record
  | .unitRead nodes top =>
    ⟨.debug, unitTarget, "loaded translation unit",
      [("nodes", .number nodes), ("top_level", .number top)]⟩
  | .scopeCycle id => ⟨.debug, unitTarget, "context cycle", [("id", .plain (shownOption id))]⟩
  | .noGlobalNamespace =>
    ⟨.debug, "castbind_ast::select", "translation unit has no root namespace", []⟩
  | .unknownMember id =>
    ⟨.debug, "castbind_codegen::classify", "unresolvable member id", [("id", .quoted id)]⟩
  | .unknownBase token =>
    ⟨.debug, "castbind_codegen::bases", "base does not resolve to a class",
      [("token", .quoted token)]⟩
  | .foreignBase qualified =>
    ⟨.debug, "castbind_codegen::bases", "base outside selected namespaces",
      [("base", .quoted qualified)]⟩
  | .foreignClass qualified =>
    ⟨.debug, "castbind_codegen::emit", "declared outside the input file",
      [("class", .quoted qualified)]⟩
  | .ambiguousMethod qualified name =>
    ⟨.warn, "castbind_codegen::emit", "ambiguous overloads excluded from bindings",
      [("class", .quoted qualified), ("method", .quoted name)]⟩
  | .parserStarts command =>
    ⟨.debug, "castbind_ast::castxml", "running C++ parser",
      [("command", .plain (" ".intercalate command))]⟩
  | .inputReady file nodes =>
    ⟨.debug, "castbind::driver", "loaded AST",
      [("file", .plain file), ("nodes", .number nodes)]⟩
  | .nothingSelected =>
    ⟨.warn, "castbind", "no namespaces selected; generated functions will be empty (use -N)", []⟩

/-- The line that stands for a record: level, target, wording, then each value under its name. -/
def Record.line (record : Record) : String :=
  record.level.name ++ " " ++ record.target ++ ": " ++ record.message
    ++ String.join (record.values.map fun value => " " ++ value.1 ++ "=" ++ value.2.shown)

end Bindery.Log
