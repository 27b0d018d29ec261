import Bindery.Host.EnvironmentFile
import Bindery.Settings.Extract
import Bindery.Settings.Toml
import Bindery.Settings.Variable

/-!
# Loading settings

Settings come in layers: a file of the user, a file of the project, and the environment. Each layer
is laid over those before it, the settings are read from the result, and what no layer gives has
its default. A file that is not there gives nothing; one that is there but cannot be read, or holds
no table, ends the loading.
-/

namespace Bindery.Settings

/-- Where a layer comes from. -/
inductive Origin where
  /-- A file. -/
  | file (path : Path)
  /-- The environment. -/
  | environment
  deriving DecidableEq, Repr

/-- What an origin is called. -/
def Origin.description : Origin → String
  | .file path => path.text ++ " TOML file"
  | .environment => "`CASTBIND_` environment variable(s)"

/-- The spelling of a path in an origin. What files set stands in the section `default`. -/
def Origin.key (origin : Origin) (path : List String) : String :=
  let joined := ".".intercalate path
  match origin with
  | .file _ => "default." ++ joined
  | .environment => String.ofList (joined.toList.map Char.toUpper)

/-- The values that come from one place. -/
structure Layer where
  /-- The place. -/
  origin : Origin
  /-- The values. -/
  table : Table
  deriving Repr

end Settings

/-- Why settings cannot be loaded. -/
inductive SettingsError where
  /-- A file cannot be read as text. -/
  | unreadable (file : Path) (fault : FileFault)
  /-- A file holds no table. -/
  | malformed (file : Path)
  /-- A value is not what its setting wants. -/
  | mismatch (mismatch : Settings.Mismatch) (origin : Option Settings.Origin)
  /-- A setting is one that no run can work with. -/
  | invalid (fault : InvalidSetting)
  deriving Repr

namespace SettingsError

/-- The finding about a value that is not what its setting wants, with the place it comes from. -/
def finding (found : Settings.Mismatch) (origin : Option Settings.Origin) : String :=
  found.message ++
    match origin with
    | some origin =>
      " for key " ++ Text.quoted (origin.key found.path) ++ " in " ++ origin.description
    | none => ""

/-- The cause that lies below the error. -/
def causes : SettingsError → List String
  | .unreadable _ fault => [fault.message]
  | .malformed file => [file.text ++ " is not a TOML file"]
  | .mismatch found origin => [finding found origin]
  | .invalid _ => []

/-- The wording, which repeats the cause. -/
def message : SettingsError → String
  | .invalid fault => fault.message
  | error => "Configuration error: " ++ "".intercalate error.causes

end SettingsError

namespace Settings

/-- The file to read for a path, if anything stands under it. Where that is no regular file, it is
looked for under the same path in the directories around. -/
def settingsFile? (host : Host) (file : Path) : Option Path :=
  if host.isThere file then (Path.outward host.directory file).find? host.isRegular else none

/-- How a file is shown in the host's directory. -/
def shown (host : Host) (file : Path) : Path :=
  host.directory.elim file (·.shownIn file)

/-- The layer that a file gives, if it is there. -/
def fileLayer (host : Host) (file : Path) : Except SettingsError (List Layer) :=
  match settingsFile? host file with
  | none => .ok []
  | some found =>
    match host.readText found with
    | .error fault => .error (.unreadable file fault)
    | .ok text =>
      match Toml.read? text with
      | some table => .ok [⟨.file (shown host found), table⟩]
      | none => .error (.malformed file)

/-- The user's directory for settings: the one that the environment gives, from the root on, and
otherwise one in the user's own directory. That is again the one that the environment gives, or else
the one that the system has registered. -/
def userDirectory? (host : Host) : Option Path :=
  let named := (host.environment.get? "XDG_CONFIG_HOME").map Path.mk
  let own := (host.environment.get? "HOME").map Path.mk
  (named.filter (·.isAbsolute)).or
    (((own.filter (!·.text.isEmpty)).or host.home).map (·.joinTo ⟨".config"⟩))

/-- The file of the user. -/
def userFile? (host : Host) : Option Path :=
  (userDirectory? host).map (·.joinTo ⟨"castbind/config.toml"⟩)

/-- The file of the project. -/
def projectFile : Path := ⟨"castbind.toml"⟩

/-- The layers of a host, lowest first. A file may be given instead of the project's. -/
def layers (host : Host) (file : Option Path) : Except SettingsError (List Layer) := do
  let user ← match userFile? host with
    | some user => fileLayer host user
    | none => pure []
  let project ← fileLayer host (file.getD projectFile)
  return user ++ project ++ [⟨.environment, Variable.tableOf host.environment⟩]

/-- The table that results from laying each layer over those before it. -/
def overlay (layers : List Layer) : Table :=
  layers.foldl (fun (known : Table) layer => known.layer layer.table) []

/-- The origin of the value that a path leads to: the highest layer that has one there. -/
def originOf? (layers : List Layer) (path : List String) : Option Origin :=
  (layers.reverse.find? fun layer => ((Value.table layer.table).at? path).isSome).map Layer.origin

/-- Reads settings from layers. -/
def ofLayers (layers : List Layer) : Except SettingsError Settings := do
  let settings ← (ofValue (.table (overlay layers))).mapError fun mismatch =>
    .mismatch mismatch (originOf? layers mismatch.path)
  match settings.fault? with
  | some fault => .error (.invalid fault)
  | none => .ok settings

/-- Loads the settings of a host. A file may be given instead of the project's. -/
def load (host : Host) (file : Option Path) : Except SettingsError Settings := do
  ofLayers (← layers host file)

end Settings

end Bindery
