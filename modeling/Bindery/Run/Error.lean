import Bindery.Settings.Load
import Bindery.TranslationUnit.Forest

/-!
# Why a run fails

Every failure has a wording and the causes below it; what the user sees is the chain of them all.
-/

namespace Bindery

/-- Why there is no translation unit for an input file. -/
inductive InputError where
  /-- The text is no translation unit. -/
  | document (cause : DocumentError)
  /-- The parser ended badly. -/
  | parserFailed (program : String) (status : ExitStatus) (command : List String)
  /-- The parser could not be started. -/
  | parserLaunch (program : String) (fault : LaunchFault)
  /-- What the parser wrote is no text. -/
  | encoding (cause : Text.Utf8Error)
  /-- The file cannot be read. -/
  | file (fault : FileFault)
  deriving DecidableEq, Repr

namespace InputError

/-- The wording. -/
def message : InputError → String
  | .document cause => cause.message
  | .parserFailed program status command =>
    program ++ ": failed with " ++ status.message ++ ", full command:\n  "
      ++ " ".intercalate command
  | .parserLaunch program fault => "failed to launch " ++ program ++ ": " ++ fault.message
  | .encoding cause => "parser output is not valid UTF-8: " ++ cause.message
  | .file fault => "IO error: " ++ fault.message

/-- The wordings below that of the error itself. -/
def causes : InputError → List String
  | .document cause => cause.causes
  | .parserFailed _ _ _ => []
  | .parserLaunch _ fault => [fault.message]
  | .encoding cause => [cause.message]
  | .file fault => [fault.message]

end InputError

/-- Why a run fails. -/
inductive RunError where
  /-- The settings cannot be loaded. -/
  | settings (cause : SettingsError)
  /-- The command line asks for settings that no run can work with. -/
  | request (fault : InvalidSetting)
  /-- An input file that should be a translation unit is none. -/
  | load (file : Path) (cause : InputError)
  /-- An input file cannot be parsed. -/
  | parse (file : Path) (cause : InputError)
  /-- An input file has no canonical path, as there is no directory to see it from. -/
  | resolve (file : Path)
  /-- The output file cannot be written. -/
  | write (file : Path) (fault : FileFault)
  /-- The standard output cannot be written. -/
  | print (fault : FileFault)
  deriving Repr

namespace RunError

/-- The wordings from the failure of the run down to its first cause. -/
def chain : RunError → List String
  | .settings cause =>
    ["failed to load castbind configuration", cause.message] ++ cause.causes
  | .request fault =>
    ["invalid configuration after applying command-line flags", fault.message]
  | .load file cause => ["failed to load XML AST from " ++ file.text, cause.message] ++ cause.causes
  | .parse file cause => ["failed to parse " ++ file.text, cause.message] ++ cause.causes
  | .resolve file => ["cannot resolve absolute path of " ++ file.text]
  | .write file fault => ["failed to write " ++ file.text, fault.message]
  | .print fault => ["failed to write generated code to stdout", fault.message]

/-- The chain in one text. -/
def message (error : RunError) : String :=
  ": ".intercalate error.chain

end RunError

end Bindery
