import Bindery.Settings.Extract

/-!
# Settings one by one

There are eight settings in two sections, each with a name, a default and a kind of content. What a
source says is an assignment of contents to some of them. Where a table reads as an assignment, the
settings that are read from it are those of the assignment, with defaults for the others.
-/

namespace Bindery.Settings

/-- A setting. -/
inductive Key where
  /-- The parser to run. -/
  | program
  /-- The language standard. -/
  | standard
  /-- The directories to search for headers. -/
  | includes
  /-- Arguments to place before the input file. -/
  | extraArguments
  /-- The namespaces to bind. -/
  | namespaces
  /-- Whether to bind only classes that the input file itself declares. -/
  | restrictToInput
  /-- The first number of an identifier. -/
  | counterStart
  /-- What the names of the registration functions begin with. -/
  | functionPrefix
  deriving DecidableEq, Repr

/-- The kind of content of a setting. -/
def Key.Content : Key → Type
  | .program | .standard | .functionPrefix => String
  | .includes | .extraArguments | .namespaces => List String
  | .restrictToInput => Bool
  | .counterStart => UInt64

/-- The section that a setting stands in. -/
def Key.sectionName : Key → String
  | .program | .standard | .includes | .extraArguments => "castxml"
  | .namespaces | .restrictToInput | .counterStart | .functionPrefix => "generator"

/-- The name of a setting in its section. -/
def Key.name : Key → String
  | .program => "program"
  | .standard => "std"
  | .includes => "includes"
  | .extraArguments => "extra_args"
  | .namespaces => "namespaces"
  | .restrictToInput => "restrict_to_input"
  | .counterStart => "counter_start"
  | .functionPrefix => "function_prefix"

/-- The path of a setting. -/
def Key.path (key : Key) : List String :=
  [key.sectionName, key.name]

/-- The value is of the right kind for the setting and says that it has the content. -/
def Key.Means : (key : Key) → Value → key.Content → Prop
  | .program, value, content => value = .text content
  | .standard, value, content => value = .text content
  | .includes, value, content => value = .sequence (List.map Value.text content)
  | .extraArguments, value, content => value = .sequence (List.map Value.text content)
  | .namespaces, value, content => value = .sequence (List.map Value.text content)
  | .restrictToInput, value, content => value = .boolean content
  | .counterStart, value, content => value = .unsigned content ∨ value = .signed content.toNat
  | .functionPrefix, value, content => value = .text content

/-- The content of a setting. -/
def get (settings : Settings) : (key : Key) → key.Content
  | .program => settings.parser.program
  | .standard => settings.parser.standard
  | .includes => settings.parser.includes
  | .extraArguments => settings.parser.extraArguments
  | .namespaces => settings.generator.namespaces
  | .restrictToInput => settings.generator.restrictToInput
  | .counterStart => settings.generator.counterStart
  | .functionPrefix => settings.generator.functionPrefix

/-- Contents for some of the settings. -/
abbrev Assignment := (key : Key) → Option key.Content

/-- No contents. -/
def Assignment.nothing : Assignment :=
  fun _ => none

/-- The contents of one assignment, and those of an earlier one for settings that it leaves out. -/
def Assignment.over (later earlier : Assignment) : Assignment :=
  fun key => (later key).or (earlier key)

/-- The settings of an assignment, with defaults for those that it leaves out. -/
def ofAssignment (assignment : Assignment) : Settings where
  parser :=
    { program := (assignment .program).getD (default.get .program)
      standard := (assignment .standard).getD (default.get .standard)
      includes := (assignment .includes).getD (default.get .includes)
      extraArguments := (assignment .extraArguments).getD (default.get .extraArguments) }
  generator :=
    { namespaces := (assignment .namespaces).getD (default.get .namespaces)
      restrictToInput := (assignment .restrictToInput).getD (default.get .restrictToInput)
      counterStart := (assignment .counterStart).getD (default.get .counterStart)
      functionPrefix := (assignment .functionPrefix).getD (default.get .functionPrefix) }

/-- Every setting of an assignment has the assigned content, or its default. -/
theorem get_ofAssignment (assignment : Assignment) (key : Key) :
    (ofAssignment assignment).get key = (assignment key).getD (default.get key) := by
  cases key <;> rfl

/-- Settings with the same contents are the same. -/
theorem eq_of_get_eq {settings other : Settings} (h : ∀ key, settings.get key = other.get key) :
    settings = other := by
  obtain ⟨⟨program, standard, includes, extra⟩, ⟨namespaces, restrict, start, begins⟩⟩ := settings
  obtain rfl : program = _ := h .program
  obtain rfl : standard = _ := h .standard
  obtain rfl : includes = _ := h .includes
  obtain rfl : extra = _ := h .extraArguments
  obtain rfl : namespaces = _ := h .namespaces
  obtain rfl : restrict = _ := h .restrictToInput
  obtain rfl : start = _ := h .counterStart
  obtain rfl : begins = _ := h .functionPrefix
  rfl

/-- The value under a name in a section, if the section is there and is a table. -/
def entryIn (found : Option Value) (name : String) : Option Value :=
  match found with
  | some (.table entries) => entries.lookup name
  | _ => none

/-- What stands in the place of a section is a table, if anything does. -/
def IsSection (found : Option Value) : Prop :=
  ∀ value, found = some value → ∃ entries, value = .table entries

/-- The value that a table has for a setting. -/
def Table.given? (table : Table) (key : Key) : Option Value :=
  entryIn (table.lookup key.sectionName) key.name

/-- The table has values for the settings of the assignment that say just that. -/
structure Table.Reads (table : Table) (assignment : Assignment) : Prop where
  /-- The sections are tables. -/
  sections : ∀ key : Key, IsSection (table.lookup key.sectionName)
  /-- The values in them are those of the assignment. -/
  entries : ∀ key : Key, Option.Rel key.Means (table.given? key) (assignment key)

/-- A text for every value is read from a sequence of texts. -/
theorem extractTexts_map (path : List String) (texts : List String) :
    extractTexts path (.sequence (texts.map .text)) = .ok texts := by
  have hitems (texts : List String) (start : Nat) :
      ((texts.map Value.text).zipIdx start).mapM
        (fun item => extractText (path ++ [toString item.2]) item.1) = .ok texts := by
    induction texts generalizing start with
    | nil => rfl
    | cons text rest ih =>
      rw [List.map_cons, List.zipIdx_cons, List.mapM_cons, ih]
      rfl
  exact hitems texts 0

/-- A value that says what a setting is, is read as that; a value that is missing, as the
fallback. -/
theorem extractOr_of_rel {α : Type} {R : Value → α → Prop} {extract : Extractor α} {fallback : α}
    {path : List String} {found : Option Value} {content : Option α}
    (h : Option.Rel R found content)
    (hextract : ∀ value a, R value a → extract path value = .ok a) :
    extractOr extract fallback path found = .ok (content.getD fallback) := by
  cases h with
  | none => rfl
  | some hmeans => exact hextract _ _ hmeans

/-- A text is read from the value that says it. -/
theorem extractText_of_eq (path : List String) (value : Value) (text : String)
    (h : value = .text text) : extractText path value = .ok text := by
  rw [h]
  rfl

/-- Texts are read from the value that says them. -/
theorem extractTexts_of_eq (path : List String) (value : Value) (texts : List String)
    (h : value = .sequence (texts.map .text)) : extractTexts path value = .ok texts := by
  rw [h]
  exact extractTexts_map path texts

/-- A truth value is read from the value that says it. -/
theorem extractBoolean_of_eq (path : List String) (value : Value) (b : Bool)
    (h : value = .boolean b) : extractBoolean path value = .ok b := by
  rw [h]
  rfl

/-- A number is read from a value that says it, with or without regard to signs. -/
theorem extractCount_of_eq (path : List String) (value : Value) (n : UInt64)
    (h : value = .unsigned n ∨ value = .signed n.toNat) : extractCount path value = .ok n := by
  rcases h with rfl | rfl
  · rfl
  · have hfits : (0 : Int) ≤ n.toNat ∧ (n.toNat : Int) < UInt64.size :=
      ⟨Int.natCast_nonneg _, Int.ofNat_lt.mpr n.toNat_lt⟩
    rw [extractCount, if_pos hfits, Int.toNat_natCast, UInt64.ofNat_toNat]

section sections

variable {found : Option Value} {assignment : Assignment} {sectionName : String}

/-- Where a section is missing, none of its settings is assigned. -/
theorem eq_none_of_rel
    (h : ∀ key : Key, key.sectionName = sectionName →
      Option.Rel key.Means (entryIn none key.name) (assignment key))
    (key : Key) (hkey : key.sectionName = sectionName) : assignment key = none := by
  have hrel : Option.Rel key.Means none (assignment key) := h key hkey
  generalize assignment key = content at hrel ⊢
  cases hrel
  rfl

/-- The parser's settings are read from their section. -/
theorem extractParser_of_rel (path : List String) (hsection : IsSection found)
    (h : ∀ key : Key, key.sectionName = "castxml" →
      Option.Rel key.Means (entryIn found key.name) (assignment key)) :
    extractOr extractParser ParserSettings.default path found =
      .ok (ofAssignment assignment).parser := by
  cases found with
  | none =>
    have hnone := eq_none_of_rel h
    rw [extractOr, ofAssignment, hnone .program rfl, hnone .standard rfl, hnone .includes rfl,
      hnone .extraArguments rfl]
    rfl
  | some value =>
    obtain ⟨entries, rfl⟩ := hsection value rfl
    have hextra : extractEntry entries path extractTexts "extra_args"
        ParserSettings.default.extraArguments = .ok ((assignment .extraArguments).getD _) :=
      extractOr_of_rel (h .extraArguments rfl) (extractTexts_of_eq _)
    have hincludes : extractEntry entries path extractTexts "includes"
        ParserSettings.default.includes = .ok ((assignment .includes).getD _) :=
      extractOr_of_rel (h .includes rfl) (extractTexts_of_eq _)
    have hprogram : extractEntry entries path extractText "program"
        ParserSettings.default.program = .ok ((assignment .program).getD _) :=
      extractOr_of_rel (h .program rfl) (extractText_of_eq _)
    have hstandard : extractEntry entries path extractText "std"
        ParserSettings.default.standard = .ok ((assignment .standard).getD _) :=
      extractOr_of_rel (h .standard rfl) (extractText_of_eq _)
    rw [extractOr, extractParser, hextra, hincludes, hprogram, hstandard]
    rfl

/-- The settings of what is bound are read from their section. -/
theorem extractGenerator_of_rel (path : List String) (hsection : IsSection found)
    (h : ∀ key : Key, key.sectionName = "generator" →
      Option.Rel key.Means (entryIn found key.name) (assignment key)) :
    extractOr extractGenerator GeneratorSettings.default path found =
      .ok (ofAssignment assignment).generator := by
  cases found with
  | none =>
    have hnone := eq_none_of_rel h
    rw [extractOr, ofAssignment, hnone .namespaces rfl, hnone .restrictToInput rfl,
      hnone .counterStart rfl, hnone .functionPrefix rfl]
    rfl
  | some value =>
    obtain ⟨entries, rfl⟩ := hsection value rfl
    have hstart : extractEntry entries path extractCount "counter_start"
        GeneratorSettings.default.counterStart = .ok ((assignment .counterStart).getD _) :=
      extractOr_of_rel (h .counterStart rfl) (extractCount_of_eq _)
    have hbegins : extractEntry entries path extractText "function_prefix"
        GeneratorSettings.default.functionPrefix = .ok ((assignment .functionPrefix).getD _) :=
      extractOr_of_rel (h .functionPrefix rfl) (extractText_of_eq _)
    have hnamespaces : extractEntry entries path extractTexts "namespaces"
        GeneratorSettings.default.namespaces = .ok ((assignment .namespaces).getD _) :=
      extractOr_of_rel (h .namespaces rfl) (extractTexts_of_eq _)
    have hrestrict : extractEntry entries path extractBoolean "restrict_to_input"
        GeneratorSettings.default.restrictToInput = .ok ((assignment .restrictToInput).getD _) :=
      extractOr_of_rel (h .restrictToInput rfl) (extractBoolean_of_eq _)
    rw [extractOr, extractGenerator, hstart, hbegins, hnamespaces, hrestrict]
    rfl

end sections

/-- The settings that are read from a table are those of the assignment that it reads as. -/
theorem ofValue_of_reads {table : Table} {assignment : Assignment} (h : table.Reads assignment) :
    ofValue (.table table) = .ok (ofAssignment assignment) := by
  have hentries (key : Key) (sectionName : String) (hkey : key.sectionName = sectionName) :
      Option.Rel key.Means (entryIn (table.lookup sectionName) key.name) (assignment key) := by
    rw [← hkey]
    exact h.entries key
  have hparser : extractEntry table [] extractParser "castxml" ParserSettings.default =
      .ok (ofAssignment assignment).parser :=
    extractParser_of_rel _ (h.sections .program) fun key => hentries key "castxml"
  have hgenerator : extractEntry table [] extractGenerator "generator" GeneratorSettings.default =
      .ok (ofAssignment assignment).generator :=
    extractGenerator_of_rel _ (h.sections .namespaces) fun key => hentries key "generator"
  rw [ofValue, extractSettings, hparser, hgenerator]
  rfl

end Bindery.Settings
