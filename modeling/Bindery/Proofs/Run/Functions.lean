import Bindery.Proofs.Binding.Functions
import Bindery.Proofs.Run.Identifiers
import Mathlib.Data.List.Forall2

/-!
# Functions of a run

The code of each file is one function, which is named after the base name of the file alone. Only
letters and digits of the base name are told apart in it. So the functions of a run have different
names just in case no two of its files have base names that agree in this way; files of one name in
different directories do agree.
-/

namespace Bindery

open Binding

namespace Binding

/-- The code for files of tidy listings has the functions of the files, and no others. -/
theorem filterMap_function?_codeOf {generated : List Generated}
    (h : ∀ made ∈ generated, made.listing.Tidy) :
    (linesOf (codeOf generated)).filterMap function? =
      generated.map (·.listing.function.toList) := by
  have hnothing : function? [] = none := by decide
  have hlistings : (generated.flatMap fun made =>
      (made.listing.lines.map Line.content).filterMap function?) =
        generated.flatMap fun made => [made.listing.function.toList] :=
    List.flatMap_congr fun made hmade => (h made hmade).filterMap_function?
  rw [linesOf_codeOf h, List.filterMap_append, List.filterMap_flatMap, hlistings,
    List.filterMap_cons_none hnothing, List.filterMap_nil, List.append_nil,
    ← List.map_eq_flatMap]

/-- Two characters that identifiers do not tell apart: they are the same, or neither of them is a
letter or digit. -/
def Agree (c d : Char) : Prop :=
  c = d ∨ c.isAlphanum = false ∧ d.isAlphanum = false

instance (c d : Char) : Decidable (Agree c d) :=
  inferInstanceAs (Decidable (_ ∨ _))

/-- Two characters stand for the same in an identifier just in case identifiers do not tell them
apart. -/
theorem identifierChar_eq_iff {c d : Char} :
    identifierChar c = identifierChar d ↔ Agree c d := by
  have hother {c d : Char} (hc : c.isAlphanum = true) (hd : ¬d.isAlphanum = true) : c ≠ d :=
    fun h => hd (h ▸ hc)
  have hline : ¬Char.isAlphanum '_' = true := by decide
  rw [identifierChar, identifierChar, Agree]
  by_cases hc : c.isAlphanum = true <;> by_cases hd : d.isAlphanum = true
  · simp [hc, hd]
  · simp [hc, hd, hother hc hd, hother hc hline]
  · simp [hc, hd, (hother hd hc).symm, (hother hd hline).symm]
  · simp [hc, hd]

end Binding

/-- Two files whose base names agree character by character, as far as identifiers tell them
apart. Directories do not matter. -/
def Path.Alike (p q : Path) : Prop :=
  List.Forall₂ Agree (p.fileName?.getD []) (q.fileName?.getD [])

instance (p q : Path) : Decidable (p.Alike q) :=
  inferInstanceAs (Decidable (List.Forall₂ _ _ _))

/-- Two files contribute the same to an identifier just in case their base names agree. -/
theorem Binding.fileIdentifier_eq_iff {p q : Path} :
    fileIdentifier p = fileIdentifier q ↔ p.Alike q := by
  rw [fileIdentifier, fileIdentifier, String.ofList_inj, ← List.forall₂_eq_eq_eq,
    List.forall₂_map_left_iff, List.forall₂_map_right_iff, Path.Alike]
  simp only [identifierChar_eq_iff]

/-- The functions for files are named after the files, in order. -/
theorem Job.functions_generateFrom {job : Job} {host : Host} {counter next : Counter}
    {trace : Trace} {files : List Path} {generated : List Generated}
    (h : (job.generateFrom host counter files).result trace = .ok (generated, next)) :
    generated.map (·.listing.function) =
      files.map (job.settings.generator.functionPrefix ++ fileIdentifier ·) := by
  induction files generalizing counter generated with
  | nil =>
    cases h
    rfl
  | cons file rest ih =>
    obtain ⟨unit, options, others, -, hoptions, rfl, hrest⟩ := exists_of_generateFrom_cons h
    rw [List.map_cons, List.map_cons, ih hrest, ← functionPrefix_of_options hoptions]
    rfl

namespace Invocation

variable {invocation : Invocation} {host : Host}

/-- The code of a run that succeeds is made of one function for each input file, and the functions
have different names just in case no two of the files have base names that agree. Where no declared
name has a line end, these functions are the ones whose heads stand in the lines of the code. -/
theorem functions_run (hexit : (invocation.run host).exit = 0) :
    ∃ settings generated, invocation.settings host.withEnvironmentFile = .ok settings ∧
      ((invocation.job settings).generateAll host.withEnvironmentFile invocation.paths).result .empty =
        .ok generated ∧
      (invocation.run host).code = codeOf generated ∧
      generated.map (·.listing.function) =
        invocation.paths.map (settings.generator.functionPrefix ++ fileIdentifier ·) ∧
      ((generated.map (·.listing.function)).Nodup ↔
        invocation.paths.Pairwise fun file other => ¬file.Alike other) ∧
      ((∀ file ∈ invocation.paths, ∀ unit,
          ((invocation.job settings).unit host.withEnvironmentFile file).result .empty = .ok unit →
            unit.NamesOneLine) →
        (linesOf (invocation.run host).code).filterMap function? =
          generated.map (·.listing.function.toList)) := by
  obtain ⟨settings, generated, hsettings, hgenerated, hcode⟩ := exists_code_of_exit_eq_zero hexit
  obtain ⟨next, hfrom⟩ := Job.exists_of_generateAll hgenerated
  have hfunctions := Job.functions_generateFrom hfrom
  refine ⟨settings, generated, hsettings, hgenerated, hcode, hfunctions, ?_, fun hnames => ?_⟩
  · have hsame (file other : Path) : settings.generator.functionPrefix ++ fileIdentifier file ≠
        settings.generator.functionPrefix ++ fileIdentifier other ↔ ¬file.Alike other := by
      rw [← fileIdentifier_eq_iff, Ne, String.append_right_inj]
    rw [hfunctions, List.Nodup, List.pairwise_map]
    simp only [job, hsame]
  · rw [hcode, filterMap_function?_codeOf]
    exact Job.tidy_of_generateFrom (isIdentifier_functionPrefix hsettings) hnames hfrom

/-- A host with three empty translation units, two of which have files of the same name. -/
def threeFiles : Host :=
  .ofTexts [("a/k.xml", "<u/>"), ("a/l.xml", "<u/>"), ("b/k.xml", "<u/>")]

/-- A run over two files of one directory. -/
def sameDirectory : Invocation :=
  { files := ["a/k.xml", "a/l.xml"], namespaces := ["a"], isXml := true }

/-- Two files of one directory lead to functions of different names. -/
theorem functions_sameDirectory : (sameDirectory.run threeFiles).exit = 0 ∧
    ∃ generated, (sameDirectory.run threeFiles).code = codeOf generated ∧
      (generated.map (·.listing.function)).Nodup := by
  have hexit : (sameDirectory.run threeFiles).exit = 0 := by decide +kernel
  obtain ⟨_, generated, -, -, hcode, -, hnodup, -⟩ := functions_run hexit
  exact ⟨hexit, generated, hcode, hnodup.mpr (by decide)⟩

/-- A run over two files of one name in different directories. -/
def sameName : Invocation :=
  { files := ["a/k.xml", "b/k.xml"], namespaces := ["a"], isXml := true }

/-- Two files of one name lead to functions of one name, though they are different files and the run
succeeds. -/
theorem not_nodup_sameName : (sameName.run threeFiles).exit = 0 ∧
    sameName.paths.Pairwise (fun file other =>
      Path.absolute? threeFiles.directory file ≠ Path.absolute? threeFiles.directory other) ∧
    (∀ file ∈ sameName.paths, file.fileName?.isSome = true) ∧
    ¬((linesOf (sameName.run threeFiles).code).filterMap function?).Nodup := by
  decide +kernel

end Invocation

end Bindery
