import Bindery.Proofs.Settings.Document
import Bindery.Proofs.Settings.Environment

/-!
# Which source decides

The settings that are loaded are those of the environment, of the project's file and of the user's
file, in this order, key by key, with defaults for what none of them assigns. They are handed out
unless no run can work with them.
-/

namespace Bindery.Settings

/-- What is found in the place of a file, if it is there: its text, or why that cannot be read. -/
abbrev Found := Option (Except FileFault String)

namespace Found

/-- The file of the user, in the host's place for it. -/
def ofUser (host : Host) : Found :=
  ((userFile? host).bind (settingsFile? host)).map host.readText

/-- The file of the project, or the one that is given instead, whether it is there or not. -/
def ofProject (host : Host) (given : Option Path) : Found :=
  (settingsFile? host (given.getD projectFile)).map host.readText

/-- A file that is there can be read, and holds a document that assigns just the contents. One that
is not there assigns nothing. -/
def Assigns (found : Found) (assignment : Assignment) : Prop :=
  found = none ∧ assignment = .nothing ∨
    ∃ text document, found = some (.ok text) ∧ Toml.document? text = some document ∧
      document.Assigns assignment

/-- Reserved names are not in the way in a document that is there. -/
def IsFree (found : Found) : Prop :=
  ∀ text document, found = some (.ok text) → Toml.document? text = some document → document.IsFree

end Found

section precedence

variable {host : Host}

/-- Laying nothing over an assignment leaves it as it is. -/
theorem Assignment.nothing_over (earlier : Assignment) : nothing.over earlier = earlier :=
  funext fun _ => Option.none_or

/-- The table that results from laying layers over one that is there already. -/
def overlayOn (known : Table) (layers : List Layer) : Table :=
  layers.foldl (fun (known : Table) layer => known.layer layer.table) known

/-- The layers decide on the settings that are assigned, and leave the others alone. -/
def Settles (layers : List Layer) (assignment : Assignment) : Prop :=
  ∀ (known : Table) (earlier : Assignment), known.Reads earlier →
    (overlayOn known layers).Reads (assignment.over earlier)

/-- No layers decide on nothing. -/
theorem settles_nil : Settles [] .nothing := by
  intro known earlier hknown
  rw [Assignment.nothing_over]
  exact hknown

/-- A single layer decides on what its table assigns. -/
theorem settles_singleton {layer : Layer} {assignment : Assignment}
    (h : layer.table.Assigns assignment) : Settles [layer] assignment :=
  fun _ _ hknown => hknown.layer h

/-- A file that assigns contents gives layers that decide on them. -/
theorem exists_fileLayer {file : Path} {assignment : Assignment}
    (h : Found.Assigns ((settingsFile? host file).map host.readText) assignment)
    (hfree : Found.IsFree ((settingsFile? host file).map host.readText)) :
    ∃ layers, fileLayer host file = .ok layers ∧ Settles layers assignment := by
  rw [fileLayer]
  rcases h with ⟨hnone, rfl⟩ | ⟨text, document, hfound, hdocument, hassigns⟩
  · rw [Option.map_eq_none_iff.mp hnone]
    exact ⟨[], rfl, settles_nil⟩
  · obtain ⟨contents, hcontents, hafter⟩ :=
      hassigns.exists_contents (hfree text document hfound hdocument)
    obtain ⟨found, hplace, htext⟩ := Option.map_eq_some_iff.mp hfound
    have hread : Toml.read? text = some contents := by
      rw [Toml.read?_eq, hdocument, Option.bind_some, hcontents]
    refine ⟨[⟨.file (shown host found), contents⟩], ?_, settles_singleton hafter⟩
    simp only [hplace, htext, hread]

/-- The settings of a table that reads as an assignment are those of the assignment. They are handed
out unless no run can work with them. -/
theorem ofLayers_of_reads {layers : List Layer} {assignment : Assignment}
    (h : (overlay layers).Reads assignment) : ofLayers layers =
      match (ofAssignment assignment).fault? with
      | none => .ok (ofAssignment assignment)
      | some fault => .error (.invalid fault) := by
  rw [ofLayers, ofValue_of_reads h]
  refine (pure_bind (ofAssignment assignment) _).trans ?_
  cases (ofAssignment assignment).fault? <;> rfl

variable {given : Option Path} {fromUser fromProject fromVariables : Assignment}

/-- The layers of a host: those of the user's file, those of the project's, and the environment. -/
theorem exists_layers (huser : (Found.ofUser host).Assigns fromUser)
    (huserFree : (Found.ofUser host).IsFree)
    (hproject : (Found.ofProject host given).Assigns fromProject)
    (hprojectFree : (Found.ofProject host given).IsFree) :
    ∃ below above, Settles below fromUser ∧ Settles above fromProject ∧
      layers host given =
        .ok (below ++ above ++ [⟨.environment, Variable.tableOf host.environment⟩]) := by
  obtain ⟨above, habove, haboveSettles⟩ := exists_fileLayer hproject hprojectFree
  rw [Found.ofUser] at huser huserFree
  rw [layers]
  cases hplace : userFile? host with
  | none =>
    rw [hplace] at huser
    obtain ⟨-, rfl⟩ | ⟨_, _, ⟨⟩, -⟩ := huser
    refine ⟨[], above, settles_nil, haboveSettles, ?_⟩
    rw [habove]
    rfl
  | some file =>
    rw [hplace] at huser huserFree
    obtain ⟨below, hbelow, hbelowSettles⟩ := exists_fileLayer huser huserFree
    refine ⟨below, above, hbelowSettles, haboveSettles, ?_⟩
    dsimp only
    rw [hbelow, habove]
    rfl

/-- Every setting has the content that the highest source assigns to it: the environment, the
project's file or the one that is given for it, the user's file. It has its default if none of them
does. These settings are loaded, unless one of them is one that no run can work with. -/
def LoadsInOrder (host : Host) (given : Option Path)
    (fromUser fromProject fromVariables : Assignment) : Prop :=
  ∃ settings : Settings,
    (∀ key, settings.get key =
      ((fromVariables key).or ((fromProject key).or (fromUser key))).getD (default.get key)) ∧
    load host given =
      match settings.fault? with
      | none => .ok settings
      | some fault => .error (.invalid fault)

/-- Where the sources assign contents and reserved names are not in the way, the settings are loaded
key by key from the highest source, whatever else the sources hold. -/
theorem loadsInOrder (huser : (Found.ofUser host).Assigns fromUser)
    (huserFree : (Found.ofUser host).IsFree)
    (hproject : (Found.ofProject host given).Assigns fromProject)
    (hprojectFree : (Found.ofProject host given).IsFree)
    (hvariables : Variable.Assigns host.environment fromVariables) :
    LoadsInOrder host given fromUser fromProject fromVariables := by
  obtain ⟨below, above, hbelow, habove, hlayers⟩ :=
    exists_layers huser huserFree hproject hprojectFree
  -- Each source decides on what it assigns, over the table of those below it.
  have hreads : (overlay (below ++ above ++
      [⟨.environment, Variable.tableOf host.environment⟩])).Reads
        (fromVariables.over (fromProject.over (fromUser.over .nothing))) := by
    rw [overlay, List.foldl_append, List.foldl_append]
    exact settles_singleton hvariables.tableOf _ _ (habove _ _ (hbelow _ _ Table.reads_nil))
  refine ⟨ofAssignment (fromVariables.over (fromProject.over (fromUser.over .nothing))),
    fun key => ?_, ?_⟩
  · rw [get_ofAssignment, Assignment.over, Assignment.over, Assignment.over, Assignment.nothing,
      Option.or_none]
  · rw [load, hlayers]
    exact ofLayers_of_reads hreads

end precedence

/-! ### Documents that are checked -/

namespace Value

mutual

/-- Whether two values are the same. -/
def same : Value → Value → Bool
  | .text s, .text t => s == t
  | .signed m, .signed n => m == n
  | .unsigned m, .unsigned n => m == n
  | .float s, .float t => s == t
  | .boolean b, .boolean c => b == c
  | .sequence items, .sequence others => areSameItems items others
  | .table entries, .table others => areSameEntries entries others
  | _, _ => false

/-- Whether two sequences hold the same items. -/
def areSameItems : List Value → List Value → Bool
  | [], [] => true
  | value :: rest, other :: others => same value other && areSameItems rest others
  | _, _ => false

/-- Whether two tables hold the same entries in the same order. -/
def areSameEntries : List (String × Value) → List (String × Value) → Bool
  | [], [] => true
  | (name, value) :: rest, (otherName, other) :: others =>
    name == otherName && (same value other && areSameEntries rest others)
  | _, _ => false

end

mutual

theorem same_iff : (value other : Value) → (same value other = true ↔ value = other)
  | .text s, other => by cases other <;> simp [same]
  | .signed n, other => by cases other <;> simp [same]
  | .unsigned n, other => by cases other <;> simp [same]
  | .float s, other => by cases other <;> simp [same]
  | .boolean b, other => by cases other <;> simp [same]
  | .sequence items, other => by cases other <;> simp [same, areSameItems_iff items]
  | .table entries, other => by cases other <;> simp [same, areSameEntries_iff entries]

theorem areSameItems_iff :
    (items others : List Value) → (areSameItems items others = true ↔ items = others)
  | [], others => by cases others <;> simp [areSameItems]
  | value :: rest, others => by
    cases others <;> simp [areSameItems, same_iff value, areSameItems_iff rest]

theorem areSameEntries_iff : (entries others : List (String × Value)) →
    (areSameEntries entries others = true ↔ entries = others)
  | [], others => by cases others <;> simp [areSameEntries]
  | (name, value) :: rest, others => by
    cases others <;>
      simp [areSameEntries, same_iff value, areSameEntries_iff rest, Prod.ext_iff, and_assoc]

end

instance : DecidableEq Value :=
  fun value other => decidable_of_iff _ (same_iff value other)

end Value

/-- A table assigns contents if its sections are tables, no setting has a second value in them, and
the values that are there say so. -/
theorem Table.assigns_of_given? {table : Table} {assignment : Assignment}
    (hshape : ∀ key : Key,
      (∀ value ∈ table.under key.sectionName, value = .table value.entries) ∧
        table.inside key.sectionName key.name = (table.given? key).toList)
    (hgiven : ∀ key : Key, Option.Rel key.Means (table.given? key) (assignment key)) :
    table.Assigns assignment := by
  refine ⟨fun key value hvalue => ⟨value.entries, (hshape key).1 value hvalue, ?_⟩, ?_⟩
  · intro found hfound
    have hinside : found ∈ table.inside key.sectionName key.name :=
      List.mem_flatMap.mpr ⟨value, hvalue, hfound⟩
    have hkey := hgiven key
    rw [(hshape key).2, Option.mem_toList] at hinside
    rw [hinside] at hkey
    generalize hassigned : assignment key = content at hkey
    cases hkey with
    | some hmeans => exact ⟨_, hassigned, hmeans⟩
  · intro key content hcontent hnone
    have hkey := hgiven key
    rw [(hshape key).2, Option.toList_eq_nil_iff] at hnone
    rw [hnone, hcontent] at hkey
    cases hkey

/-- A file that is found, with its document, assigns what the document does. -/
theorem Found.assigns_of_document {found : Found} {text : String} {document : Table}
    {assignment : Assignment} (hfound : found = some (.ok text))
    (hdocument : Toml.document? text = some document) (hassigns : document.Assigns assignment) :
    found.Assigns assignment :=
  .inr ⟨text, document, hfound, hdocument, hassigns⟩

/-- Reserved names are not in the way in a file if they are not in the way in its document. -/
theorem Found.isFree_of_document {found : Found} {text : String} {document : Table}
    (hfound : found = some (.ok text)) (hdocument : Toml.document? text = some document)
    (hfree : document.IsFree) : found.IsFree := by
  intro text' document' hfound' hdocument'
  obtain rfl : text = text' :=
    Except.ok.inj (Option.some.inj (hfound.symm.trans hfound'))
  obtain rfl : document = document' := Option.some.inj (hdocument.symm.trans hdocument')
  exact hfree

/-- A host with variables and regular files of the given texts, by their paths from the root. -/
def hostWith (environment : Environment) (files : List (Path × String)) : Host where
  directory := some ⟨"/"⟩
  environment := environment
  home := none
  stat := fun file =>
    match files.lookup (.absolute ⟨"/"⟩ file) with
    | some _ => .ok .regular
    | none => .error (.os .notFound)
  read := fun file =>
    match files.lookup (.absolute ⟨"/"⟩ file) with
    | some text => .ok (Text.encode text)
    | none => .error (.os .notFound)
  execute := fun _ => .error (.os .notFound)
  sink := fun _ => .ok .file
  outputFault? := none

/-- A file of the user. -/
def usersText : String :=
  "[castxml]\nprogram = 'mine'\nstd = 'c++20'\n[generator]\nnamespaces = ['a', 'b']\n"

/-- The document in the user's file. -/
def usersDocument : Table :=
  [("castxml", .table [("program", .text "mine"), ("std", .text "c++20")]),
    ("generator", .table [("namespaces", .sequence [.text "a", .text "b"])])]

/-- What the user's file assigns. -/
def usersAssignment : Assignment
  | .program => some "mine"
  | .standard => some "c++20"
  | .namespaces => some ["a", "b"]
  | _ => none

/-- A file of a project, which holds a name that is no setting. -/
def projectText : String :=
  "[castxml]\nstd = 'c++17'\ncolour = 1\n[generator]\nnamespaces = ['c']\ncounter_start = 7\n"

/-- The document in the project's file. -/
def projectDocument : Table :=
  [("castxml", .table [("std", .text "c++17"), ("colour", .signed 1)]),
    ("generator", .table [("namespaces", .sequence [.text "c"]), ("counter_start", .signed 7)])]

/-- What the project's file assigns. -/
def projectAssignment : Assignment
  | .standard => some "c++17"
  | .namespaces => some ["c"]
  | .counterStart => some (7 : UInt64)
  | _ => none

/-- Variables, one of which is a setting's. -/
def someVariables : Environment :=
  [("HOME", "/home"), ("CASTBIND_GENERATOR__COUNTER_START", "9"), ("CASTBIND_COLOUR", "red")]

/-- What the variables assign. -/
def variablesAssignment : Assignment
  | .counterStart => some (9 : UInt64)
  | _ => none

/-- A host with all three sources. -/
def layeredHost : Host :=
  hostWith someVariables [(⟨"/home/.config/castbind/config.toml"⟩, usersText),
    (⟨"/castbind.toml"⟩, projectText)]

/-- Both files of that host can be read. -/
theorem found_layeredHost : Found.ofUser layeredHost = some (.ok usersText) ∧
    Found.ofProject layeredHost none = some (.ok projectText) := by
  decide +kernel

theorem assigns_usersDocument : usersDocument.Assigns usersAssignment := by
  refine Table.assigns_of_given? (fun key => ?_) fun key => ?_
  · cases key <;> exact ⟨List.forall_mem_singleton.mpr rfl, rfl⟩
  · cases key <;> first | exact .none | exact .some rfl

theorem assigns_projectDocument : projectDocument.Assigns projectAssignment := by
  refine Table.assigns_of_given? (fun key => ?_) fun key => ?_
  · cases key <;> exact ⟨List.forall_mem_singleton.mpr rfl, rfl⟩
  · cases key <;> first | exact .none | exact .some rfl | exact .some (.inr rfl)

/-- A variable leads nowhere, or it is the one for the first number, or it leads past all settings,
to a place outside of their sections. -/
theorem path?_of_mem_someVariables : ∀ variable_ ∈ someVariables,
    Variable.path? variable_.1 = none ∨
      variable_.1 = Key.counterStart.variable ∧
        Variable.path? variable_.1 = some Key.counterStart.path ∨
      Variable.path? variable_.1 = some ["colour"] := by
  decide +kernel

theorem assigns_someVariables : Variable.Assigns someVariables variablesAssignment where
  spelled variable_ hvariable key hpath := by
    rcases path?_of_mem_someVariables variable_ hvariable with hnone | ⟨hname, hstart⟩ | hcolour
    · cases hnone.symm.trans hpath
    · have hkey := Option.some.inj (hstart.symm.trans hpath)
      cases key with
      | counterStart => exact hname
      | _ => simp [Key.path, Key.sectionName, Key.name] at hkey
    · have hlength := congrArg List.length (Option.some.inj (hcolour.symm.trans hpath))
      cases hlength
  apart variable_ hvariable path hpath key := by
    rcases path?_of_mem_someVariables variable_ hvariable with hnone | ⟨-, hstart⟩ | hcolour
    · cases hnone.symm.trans hpath
    · obtain rfl := Option.some.inj (hstart.symm.trans hpath)
      cases key <;> simp [Key.path, Key.sectionName, Key.name]
    · obtain rfl := Option.some.inj (hcolour.symm.trans hpath)
      cases key <;> simp [Key.path, Key.sectionName, Key.name]
  fits key text hmem := by
    have hnames : key = .counterStart ∧ text = "9" := by
      simp only [someVariables, List.mem_cons, List.not_mem_nil, Prod.mk.injEq, or_false] at hmem
      revert hmem
      cases key <;> simp +decide
    obtain ⟨rfl, rfl⟩ := hnames
    exact ⟨(9 : UInt64), rfl, .inl (by decide +kernel)⟩
  given key content hcontent := by
    cases key with
    | counterStart => exact ⟨"9", by decide⟩
    | _ => cases hcontent

/-- The settings of that host: the parser of the user's file, the standard and the namespaces of the
project's, the first number of the environment, and defaults. -/
theorem load_layeredHost : load layeredHost none =
    .ok ⟨⟨"mine", "c++17", [], []⟩, ⟨["c"], true, 9, "jsonipc_4_"⟩⟩ := by
  obtain ⟨huser, hproject⟩ := found_layeredHost
  have husersDocument : Toml.document? usersText = some usersDocument := by decide +kernel
  have hprojectDocument : Toml.document? projectText = some projectDocument := by decide +kernel
  obtain ⟨settings, hget, hload⟩ := loadsInOrder
    (Found.assigns_of_document huser husersDocument assigns_usersDocument)
    (Found.isFree_of_document huser husersDocument
      ⟨rfl, fun key => by cases key <;> rfl⟩)
    (Found.assigns_of_document hproject hprojectDocument assigns_projectDocument)
    (Found.isFree_of_document hproject hprojectDocument
      ⟨rfl, fun key => by cases key <;> rfl⟩)
    assigns_someVariables
  have hsettings : settings = ⟨⟨"mine", "c++17", [], []⟩, ⟨["c"], true, 9, "jsonipc_4_"⟩⟩ := by
    refine eq_of_get_eq fun key => ?_
    rw [hget]
    cases key <;> rfl
  have hfault : settings.fault? = none := by
    rw [hsettings]
    decide +kernel
  rw [hload, hfault, hsettings]

/-- A file in which a section has an entry that stands for the section. -/
def reservedText : String :=
  "[castxml]\n\"___figment_value_value\" = 1\nstd = 'y'\n"

/-- The document in it. -/
def reservedDocument : Table :=
  [("castxml", .table [("___figment_value_value", .signed 1), ("std", .text "y")])]

/-- What it assigns: the other entry is that of no setting. -/
def reservedAssignment : Assignment
  | .standard => some "y"
  | _ => none

/-- A host with just that file. -/
def reservedHost : Host :=
  hostWith [] [(⟨"/castbind.toml"⟩, reservedText)]

theorem assigns_reservedDocument : reservedDocument.Assigns reservedAssignment := by
  refine Table.assigns_of_given? (fun key => ?_) fun key => ?_
  · cases key <;>
      first | exact ⟨List.forall_mem_singleton.mpr rfl, rfl⟩ | exact ⟨List.forall_mem_nil _, rfl⟩
  · cases key <;> first | exact .none | exact .some rfl

/-- There is no file of the user on that host, so that nothing is assigned there. -/
theorem assigns_ofUser_reservedHost : (Found.ofUser reservedHost).Assigns .nothing :=
  .inl ⟨rfl, rfl⟩

/-- The project's file assigns a standard. -/
theorem assigns_ofProject_reservedHost :
    (Found.ofProject reservedHost none).Assigns reservedAssignment := by
  have hproject : Found.ofProject reservedHost none = some (.ok reservedText) := by decide +kernel
  have hdocument : Toml.document? reservedText = some reservedDocument := by decide +kernel
  exact Found.assigns_of_document hproject hdocument assigns_reservedDocument

/-- No settings are loaded there. -/
theorem isOk_load_reservedHost : (load reservedHost none).isOk = false := by
  decide +kernel

/-- Reserved names make a difference: with one in a section of the project's file, the settings that
the sources assign are not loaded. -/
theorem not_loadsInOrder_of_assigns :
    ¬∀ (host : Host) (given : Option Path) (fromUser fromProject fromVariables : Assignment),
      (Found.ofUser host).Assigns fromUser → (Found.ofProject host given).Assigns fromProject →
        Variable.Assigns host.environment fromVariables →
          LoadsInOrder host given fromUser fromProject fromVariables := by
  intro hall
  have hvariables : Variable.Assigns reservedHost.environment .nothing :=
    { spelled := fun _ hmem => (List.not_mem_nil hmem).elim
      apart := fun _ hmem => (List.not_mem_nil hmem).elim
      fits := fun _ _ hmem => (List.not_mem_nil hmem).elim
      given := fun _ _ hcontent => (Option.some_ne_none _ hcontent.symm).elim }
  obtain ⟨settings, hget, hload⟩ := hall reservedHost none .nothing reservedAssignment .nothing
    assigns_ofUser_reservedHost assigns_ofProject_reservedHost hvariables
  have hfails := isOk_load_reservedHost
  have hsettings : settings = ⟨⟨"castxml", "y", [], []⟩, .default⟩ := by
    refine eq_of_get_eq fun key => ?_
    rw [hget]
    cases key <;> rfl
  have hfault : settings.fault? = none := by
    rw [hsettings]
    rfl
  rw [hload, hfault] at hfails
  cases hfails

end Bindery.Settings
