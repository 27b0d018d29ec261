import Bindery.Proofs.Binding.Declarations
import Bindery.Proofs.Run.Ending

/-!
# Identifiers of a run

One counter serves all files of a run, so the statements of a run are numbered as if they were made
for one file. What holds of the lines of each listing then holds of the whole code: its declarations
count on from the first number of the settings, in the order in which they stand in the text.
-/

namespace Bindery

open Binding

namespace Job

variable {job : Job} {host : Host} {counter next : Counter} {trace : Trace}
  {files : List Path} {generated : List Generated}

/-- Code for a file and the files behind it is generated from the translation unit of that file,
under its options, and then for the others from where the counter has come to. -/
theorem exists_of_generateFrom_cons {file : Path}
    (h : (job.generateFrom host counter (file :: files)).result trace = .ok (generated, next)) :
    ∃ unit options others, (job.unit host file).result trace = .ok unit ∧
      job.options host file = .ok options ∧
      let made := (Generated.ofDrafts options file (unit.drafts host.directory options)).run counter
      generated = made.1 :: others ∧
        (job.generateFrom host made.2 files).result trace = .ok (others, next) := by
  rw [result_generateFrom_cons, result_generate] at h
  obtain ⟨made, hfile, hothers⟩ := exists_of_bind_eq_ok h
  obtain ⟨unit, hunit, hgenerated⟩ := exists_of_bind_eq_ok hfile
  obtain ⟨options, hoptions, rfl⟩ := exists_of_map_eq_ok hgenerated
  obtain ⟨others, hrest, hpair⟩ := exists_of_map_eq_ok hothers
  cases hpair
  exact ⟨unit, options, others.1, hunit, hoptions, rfl, hrest⟩

/-- The statements for all files are numbered from the counter on, and the counter moves on by as
many as there are. -/
theorem numberedFrom_generateFrom
    (h : (job.generateFrom host counter files).result trace = .ok (generated, next)) :
    NumberedFrom counter (generated.flatMap (·.listing.statements)) ∧
      next = counter.advance (generated.flatMap (·.listing.statements)).length := by
  induction files generalizing counter generated with
  | nil =>
    cases h
    exact ⟨trivial, (Counter.advance_zero _).symm⟩
  | cons file rest ih =>
    obtain ⟨unit, options, others, -, -, rfl, hrest⟩ := exists_of_generateFrom_cons h
    obtain ⟨hnumbered, hcounter⟩ := numbers_ofDrafts options file
      (unit.drafts host.directory options) counter
    rw [hcounter] at hrest
    obtain ⟨hothers, hnext⟩ := ih hrest
    rw [List.flatMap_cons, numberedFrom_append, List.length_append,
      ← Counter.advance_advance]
    exact ⟨⟨hnumbered, hothers⟩, hnext⟩

/-- The options for a file take over how the names of functions begin. -/
theorem functionPrefix_of_options {file : Path} {options : Options}
    (h : job.options host file = .ok options) :
    options.functionPrefix = job.settings.generator.functionPrefix := by
  obtain ⟨place, -, rfl⟩ := exists_of_map_eq_ok h
  rfl

/-- The statements for all files are as many as the reports tell of. -/
theorem length_statements_generateFrom
    (h : (job.generateFrom host counter files).result trace = .ok (generated, next)) :
    (generated.flatMap (·.listing.statements)).length = total (·.report.statements) generated := by
  induction files generalizing counter generated with
  | nil =>
    cases h
    rfl
  | cons file rest ih =>
    obtain ⟨unit, options, others, -, -, rfl, hrest⟩ := exists_of_generateFrom_cons h
    rw [List.flatMap_cons, List.length_append, length_statements_ofDrafts, ih hrest]
    rfl

/-- Where no declared name has a line end, the listings for all files are tidy. -/
theorem tidy_of_generateFrom
    (hfunction : isIdentifier job.settings.generator.functionPrefix.toList = true)
    (hnames : ∀ file ∈ files, ∀ unit, (job.unit host file).result trace = .ok unit →
      unit.NamesOneLine)
    (h : (job.generateFrom host counter files).result trace = .ok (generated, next)) :
    ∀ made ∈ generated, made.listing.Tidy := by
  induction files generalizing counter generated with
  | nil =>
    cases h
    exact List.forall_mem_nil _
  | cons file rest ih =>
    obtain ⟨unit, options, others, hunit, hoptions, rfl, hrest⟩ := exists_of_generateFrom_cons h
    rw [← functionPrefix_of_options hoptions] at hfunction
    rw [List.forall_mem_cons] at hnames ⊢
    exact ⟨(hnames.1 unit hunit).tidy_listing hfunction host.directory file counter,
      ih hnames.2 hrest⟩

/-- Code for all files is generated from the first number of the settings on. -/
theorem exists_of_generateAll
    (h : (job.generateAll host files).result trace = .ok generated) :
    ∃ next, (job.generateFrom host ⟨job.settings.generator.counterStart⟩ files).result trace =
      .ok (generated, next) := by
  rw [result_generateAll] at h
  obtain ⟨found, hfrom, rfl⟩ := exists_of_map_eq_ok h
  exact ⟨found.2, hfrom⟩

end Job

/-- The code for files falls into the lines of their listings. -/
theorem Binding.linesOf_codeOf {generated : List Generated}
    (h : ∀ made ∈ generated, made.listing.Tidy) :
    linesOf (codeOf generated) =
      (generated.flatMap fun made => made.listing.lines.map Line.content) ++ [[]] := by
  have hcode : codeOf generated =
      String.join ((generated.flatMap (·.listing.lines)).map Line.render) := by
    refine String.toList_inj.mp ?_
    rw [codeOf, String.toList_join, String.toList_join, List.flatMap_map, List.flatMap_map,
      List.flatMap_assoc]
    exact List.flatMap_congr fun made _ => by
      rw [Generated.code, Listing.render, String.toList_join, List.flatMap_map]
  have hlines : ∀ line ∈ generated.flatMap (·.listing.lines), OneLine line.text := by
    intro line hline
    obtain ⟨made, hmade, hline⟩ := List.mem_flatMap.mp hline
    exact (h made hmade).oneLine_lines line hline
  rw [hcode, linesOf_join hlines, List.map_flatMap]

/-- No space stands in the identifiers of tidy listings. -/
theorem Binding.space_not_mem_statements {generated : List Generated}
    (h : ∀ made ∈ generated, made.listing.Tidy) :
    ∀ statement ∈ generated.flatMap (·.listing.statements),
      ' ' ∉ statement.identifier.toList := by
  intro statement hstatement
  obtain ⟨made, hmade, hlisted⟩ := List.mem_flatMap.mp hstatement
  obtain ⟨block, hblock, hmember⟩ := List.mem_flatMap.mp hlisted
  exact (((h made hmade).blocks block hblock).statements statement hmember).space_not_mem

/-- The lines of the code for files declare the identifiers of all their statements. -/
theorem Binding.declares_codeOf {generated : List Generated}
    (h : ∀ made ∈ generated, made.listing.Tidy) :
    Declares (linesOf (codeOf generated)) (generated.flatMap (·.listing.statements)) := by
  have hnothing : Declares [[]] [] := declares_nil (by decide)
  have hall := (Declares.flatMap fun made hmade => (h made hmade).declares).append hnothing
  rw [linesOf_codeOf h]
  rwa [List.append_nil] at hall

namespace Invocation

variable {invocation : Invocation} {host : Host} {settings : Settings}

/-- Settings that a run can work with have an identifier for functions to begin with. -/
theorem isIdentifier_functionPrefix (h : invocation.settings host = .ok settings) :
    isIdentifier settings.generator.functionPrefix.toList = true := by
  unfold Invocation.settings at h
  cases hload : Settings.load host (invocation.config.map Path.mk) with
  | error error =>
    rw [hload] at h
    cases h
  | ok loaded =>
    rw [hload] at h
    simp only [Except.mapError, bind, Except.bind] at h
    split at h
    · cases h
    next hfault =>
      cases h
      rw [Settings.fault?] at hfault
      split at hfault
      · cases hfault
      · split at hfault
        · cases hfault
        next hword => simpa using hword

/-- In the code of a run that succeeds, the declarations count on from the first number of the
settings, whatever files they are made for: the next number goes to the next declaration, and to
nothing else. So no identifier is declared twice, and where a line consists of an identifier, that
is the one which the line before declares. There are as many declarations as the reports tell of
enumerations and classes, so that what is left out takes no number. -/
theorem declared_run (hsettings : invocation.settings host.withEnvironmentFile = .ok settings)
    (hnames : ∀ file ∈ invocation.paths, ∀ unit,
      ((invocation.job settings).unit host.withEnvironmentFile file).result .empty = .ok unit →
        unit.NamesOneLine)
    (hexit : (invocation.run host).exit = 0) :
    let lines := linesOf (invocation.run host).code
    let declarations := lines.filter declares
    let start := settings.generator.counterStart.toNat
    (start + declarations.length < 2 ^ 64 →
      (∀ k line, declarations[k]? = some line →
        ∃ name,
          ∃ template ∈ [("Enum", "enum"), ("Class", "class"), ("Serializable", "serializable")],
            let identifier := template.2 ++ "_" ++ toString (start + k)
            line = ("  ::Jsonipc::" ++ template.1 ++ "< " ++ name ++ " > " ++ identifier ++
              ";").toList ∧
            (declared? line).map Prod.snd = some identifier.toList) ∧
      ((lines.filterMap declared?).map Prod.snd).Nodup) ∧
    (∀ before line after identifier, lines = before ++ line :: after →
      identifier? line = some identifier →
        ∃ front declaration template, before = front ++ [declaration] ∧
          declared? declaration = some (template, identifier)) ∧
    ∃ generated,
      ((invocation.job settings).generateAll host.withEnvironmentFile
        invocation.paths).result .empty = .ok generated ∧
      declarations.length =
        total (fun made => made.report.enums + made.report.classes) generated := by
  obtain ⟨settings', generated, hsettings', hgenerated, hcode⟩ := exists_code_of_exit_eq_zero hexit
  obtain rfl := Except.ok.inj (hsettings.symm.trans hsettings')
  obtain ⟨next, hfrom⟩ := Job.exists_of_generateAll hgenerated
  have hnumbered := (Job.numberedFrom_generateFrom hfrom).1
  have htidy := Job.tidy_of_generateFrom (isIdentifier_functionPrefix hsettings) hnames hfrom
  have hdeclares := declares_codeOf htidy
  have hspace := space_not_mem_statements htidy
  rw [hcode]
  intro lines declarations start
  have hdeclarations : declarations = _ := hdeclares.declarations
  have hlength : declarations.length = (generated.flatMap (·.listing.statements)).length := by
    rw [hdeclarations, List.length_map]
  refine ⟨fun hfits => ⟨fun k line hk => ?_, ?_⟩, hdeclares.backed, generated, hgenerated,
    hlength.trans (Job.length_statements_generateFrom hfrom)⟩
  · rw [hlength] at hfits
    rw [hdeclarations, List.getElem?_map, Option.map_eq_some_iff] at hk
    obtain ⟨statement, hstatement, rfl⟩ := hk
    refine ⟨statement.qualified, (statement.template.name, statement.template.word),
      statement.template.name_word_mem, ?_⟩
    have hidentifier := hnumbered.identifier_eq hfits hstatement
    have htext := hspace statement (List.mem_of_getElem? hstatement)
    rw [declared?_declaration statement htext, statement.content_declaration_eq, hidentifier]
    exact ⟨rfl, rfl⟩
  · have htexts := (hnumbered.nodup (hlength ▸ hfits)).map fun _ _ => String.toList_injective
    rw [hdeclares.declared hspace, List.map_map]
    rwa [List.map_map] at htexts

end Invocation

/-- A host that has some texts as its files, and nothing else. -/
def Host.ofTexts (texts : List (String × String)) : Host where
  directory := some ⟨"/"⟩
  environment := []
  home := none
  stat := fun file =>
    if (texts.lookup file.text).isSome then .ok .regular else .error (.os .notFound)
  read := fun file =>
    match texts.lookup file.text with
    | some text => .ok (Text.encode text)
    | none => .error (.os .notFound)
  execute := fun _ => .error (.os .notFound)
  sink := fun _ => .ok .file
  outputFault? := none

namespace Invocation

/-- A host with one file, which declares an enumeration and a class in a namespace. -/
def smallHost : Host :=
  .ofTexts [("a.xml", "<u><Namespace id='0' name='::'/><Namespace id='1' name='a' context='0'/>" ++
    "<Class name='K' context='1'/><Enumeration name='E' context='1'/></u>")]

/-- A run over the same file twice. -/
def twice : Invocation :=
  { files := ["a.xml", "a.xml"], namespaces := ["a"], isXml := true }

/-- The lines of code that are generated for the file twice. -/
def twiceCode : List String :=
  ["static void\n", "jsonipc_4_a_xml()\n", "\x7b\n", "  // namespace a\n",
    "  ::Jsonipc::Enum< ::a::E > enum_1001;\n", "  enum_1001\n", "    ;\n",
    "  ::Jsonipc::Class< ::a::K > class_1002;\n", "\x7d\n",
    "static void\n", "jsonipc_4_a_xml()\n", "\x7b\n", "  // namespace a\n",
    "  ::Jsonipc::Enum< ::a::E > enum_1003;\n", "  enum_1003\n", "    ;\n",
    "  ::Jsonipc::Class< ::a::K > class_1004;\n", "\x7d\n"]

/-- A run over the same file twice succeeds and declares four identifiers, and no identifier
twice. -/
theorem declared_twice : (twice.run smallHost).exit = 0 ∧
    (twice.run smallHost).code = String.join twiceCode ∧
    (linesOf (twice.run smallHost).code).filter declares =
      ["  ::Jsonipc::Enum< ::a::E > enum_1001;".toList,
        "  ::Jsonipc::Class< ::a::K > class_1002;".toList,
        "  ::Jsonipc::Enum< ::a::E > enum_1003;".toList,
        "  ::Jsonipc::Class< ::a::K > class_1004;".toList] ∧
    (((linesOf (twice.run smallHost).code).filterMap declared?).map Prod.snd).Nodup := by
  obtain ⟨hexit, hcode⟩ : (twice.run smallHost).exit = 0 ∧
      (twice.run smallHost).code = String.join twiceCode := by
    decide +kernel
  have hdeclarations : (linesOf (twice.run smallHost).code).filter declares =
      ["  ::Jsonipc::Enum< ::a::E > enum_1001;".toList,
        "  ::Jsonipc::Class< ::a::K > class_1002;".toList,
        "  ::Jsonipc::Enum< ::a::E > enum_1003;".toList,
        "  ::Jsonipc::Class< ::a::K > class_1004;".toList] := by
    -- The characters are taken from the lines one by one, which is much faster than all at once.
    rw [hcode, linesOf, String.toList_join]
    decide +kernel
  obtain ⟨settings, _, hsettings, -⟩ := exists_code_of_exit_eq_zero hexit
  have hstart : ((twice.settings smallHost.withEnvironmentFile).map
      (·.generator.counterStart)).toOption = some 1001 := by
    decide +kernel
  have hfits : settings.generator.counterStart.toNat +
      ((linesOf (twice.run smallHost).code).filter declares).length < 2 ^ 64 := by
    rw [hsettings] at hstart
    have hnumber : settings.generator.counterStart = 1001 := Option.some.inj hstart
    rw [hdeclarations, hnumber]
    decide
  have hnames : ∀ file ∈ twice.paths, ∀ unit,
      ((twice.job settings).unit smallHost.withEnvironmentFile file).result .empty = .ok unit →
        unit.NamesOneLine := by
    intro file hfile unit hunit
    obtain rfl : file = ⟨"a.xml"⟩ := by simpa [paths, twice] using hfile
    have hread : (((smallHost.withEnvironmentFile.readUnit ⟨"a.xml"⟩).mapError
        (RunError.load ⟨"a.xml"⟩)).result .empty).toOption.all
          (fun unit => decide unit.NamesOneLine) = true := by
      decide +kernel
    have hsame : (twice.job settings).unit smallHost.withEnvironmentFile ⟨"a.xml"⟩ =
        (smallHost.withEnvironmentFile.readUnit ⟨"a.xml"⟩).mapError (.load ⟨"a.xml"⟩) := rfl
    rw [hsame] at hunit
    rw [hunit] at hread
    exact of_decide_eq_true hread
  exact ⟨hexit, hcode, hdeclarations, ((declared_run hsettings hnames hexit).1 hfits).2⟩

end Invocation

end Bindery
