import Bindery.Invocation.Basic
import Bindery.Proofs.Text.Fields
import Mathlib.Data.List.Basic

/-!
# Settings under a command line

A command line adds to the lists of the settings that were loaded, can lift one restriction, and
leaves all else as it is. So settings that a run can work with become unusable in one way only: by a
name on the command line that is no name of a namespace at the top. The first of those is the one
that is reported.
-/

namespace Bindery

variable {known names : List String} {name : String}

/-- A name can be bound as a namespace at the top if it is not empty and has no `::` in it. -/
theorem isNamespaceName_iff :
    isNamespaceName name = true ↔ name ≠ "" ∧ ¬"::".toList <:+: name.toList := by
  rw [isNamespaceName, Bool.and_eq_true, Bool.not_eq_true', beq_iff_eq,
    Text.length_segments_eq_one_iff, String.isEmpty_eq_false_iff]

/-- The names added to a list are those that are not in it, each once, in the order in which they
are first met. -/
theorem foldl_addNew (known names : List String) :
    names.foldl addNew known = known ++ (names.filter (· ∉ known)).eraseDups := by
  induction names generalizing known with
  | nil => simp
  | cons name rest ih =>
    rw [List.foldl_cons, ih, addNew]
    split
    next hknown => rw [List.filter_cons_of_neg (by simpa using hknown)]
    next hnew =>
      have hrest : rest.filter (· ∉ known ++ [name]) =
          (rest.filter (· ∉ known)).filter (fun other => !other == name) := by
        rw [List.filter_filter]
        refine List.filter_congr fun other _ => ?_
        by_cases hother : other = name <;> simp [hother]
      rw [List.filter_cons_of_pos (by simpa using hnew), List.eraseDups_cons, hrest,
        List.append_assoc, List.singleton_append]

/-- The first name of a certain sort is found in the list, or else among the names that are added,
whether or not some of them were left out. -/
theorem find?_foldl_addNew (p : String → Bool) (known names : List String) :
    (names.foldl addNew known).find? p = (known.find? p).or (names.find? p) := by
  induction names generalizing known with
  | nil => simp
  | cons name rest ih =>
    rw [List.foldl_cons, ih, addNew, List.find?_cons]
    split
    next hknown =>
      cases hname : p name with
      | false => rfl
      | true =>
        -- The name is left out, but then the list has one of the sort already.
        obtain ⟨found, hfound⟩ := Option.isSome_iff_exists.mp
          (List.find?_isSome.mpr ⟨name, hknown, hname⟩)
        rw [hfound, Option.some_or, Option.some_or]
    next =>
      rw [List.find?_append, Option.or_assoc, List.find?_cons]
      cases p name <;> simp

namespace Settings

/-- What it means that nothing is at fault. -/
theorem fault?_eq_none_iff {settings : Settings} :
    settings.fault? = none ↔
      (Text.trim settings.parser.program.toList).isEmpty = false ∧
        isIdentifier settings.generator.functionPrefix.toList = true ∧
        settings.generator.namespaces.find? (!isNamespaceName ·) = none := by
  unfold fault?
  cases (Text.trim settings.parser.program.toList).isEmpty <;>
    cases isIdentifier settings.generator.functionPrefix.toList <;> simp

end Settings

namespace Invocation

variable {invocation : Invocation} {loaded : Settings}

/-- The command line is laid over settings: what becomes of each of them, and whether a run can work
with the outcome. -/
structure LaidOver (invocation : Invocation) (loaded settings : Settings) : Prop where
  /-- Directories are added behind those that are there; all else about the parser stays. -/
  parser : settings.parser =
    { loaded.parser with includes := loaded.parser.includes ++ invocation.includes }
  /-- New namespaces are added behind those that are there, each once and in order. The restriction
  to the input files can be lifted. The first number and the function names stay. -/
  generator : settings.generator =
    { loaded.generator with
      namespaces := loaded.generator.namespaces ++
        (invocation.namespaces.filter (· ∉ loaded.generator.namespaces)).eraseDups
      restrictToInput := if invocation.allFiles then false else loaded.generator.restrictToInput }
  /-- Nothing is at fault just in case all names on the command line name namespaces at the top. -/
  usable : settings.fault? = none ↔
    ∀ name ∈ invocation.namespaces, name ≠ "" ∧ ¬"::".toList <:+: name.toList
  /-- What is reported is the first name on the command line that does not. -/
  refused : ∀ before name after, invocation.namespaces = before ++ name :: after →
    (∀ earlier ∈ before, earlier ≠ "" ∧ ¬"::".toList <:+: earlier.toList) →
    ¬(name ≠ "" ∧ ¬"::".toList <:+: name.toList) →
    ∃ fault, settings.fault? = some fault ∧ fault.field = "generator.namespaces" ∧
      fault.reason = "'" ++ name ++ "' is not a top-level namespace name"

/-- Over settings that a run can work with, a command line is at fault for its own names only. -/
theorem fault?_apply (h : loaded.fault? = none) :
    (invocation.apply loaded).fault? =
      (invocation.namespaces.find? (!isNamespaceName ·)).map .badNamespace := by
  obtain ⟨hprogram, hprefix, hnamespaces⟩ := Settings.fault?_eq_none_iff.mp h
  have hfind := find?_foldl_addNew (!isNamespaceName ·) loaded.generator.namespaces
    invocation.namespaces
  rw [hnamespaces, Option.none_or] at hfind
  simp only [Settings.fault?, apply, hprogram, hprefix, hfind]
  rfl

/-- A command line over settings that a run can work with adds to them, and can make them unusable
only by a name of a namespace. -/
theorem laidOver_apply (invocation : Invocation) (h : loaded.fault? = none) :
    invocation.LaidOver loaded (invocation.apply loaded) := by
  refine ⟨rfl, ?_, ?_, ?_⟩
  · rw [apply, foldl_addNew]
    cases invocation.allFiles <;> simp
  · rw [fault?_apply h, Option.map_eq_none_iff, List.find?_eq_none]
    simp only [Bool.not_eq_true, Bool.not_eq_false', isNamespaceName_iff]
  · intro before name after hnames hbefore hname
    refine ⟨.badNamespace name, ?_, rfl, rfl⟩
    have hearlier : before.find? (!isNamespaceName ·) = none := by
      simp only [List.find?_eq_none, Bool.not_eq_true, Bool.not_eq_false', isNamespaceName_iff]
      exact hbefore
    have hfound : isNamespaceName name = false := by
      rw [← isNamespaceName_iff] at hname
      exact Bool.eq_false_iff.mpr hname
    rw [fault?_apply h, hnames, List.find?_append, hearlier, Option.none_or, List.find?_cons,
      hfound]
    rfl

/-- Settings with one namespace. -/
def oneNamespace : Settings :=
  ⟨.default, { GeneratorSettings.default with namespaces := ["a"] }⟩

/-- A command line with a new namespace, which it names twice, a known one, and two names that are
none of a namespace at the top. -/
def fourNames : Invocation :=
  { files := ["k.hh"], namespaces := ["b", "a", "b::c", "b", ""], allFiles := true }

/-- Of two names that are none of a namespace at the top, the first is reported. -/
theorem laidOver_fourNames : oneNamespace.fault? = none ∧
    (fourNames.apply oneNamespace).generator.namespaces = ["a", "b", "b::c", ""] ∧
    ∃ fault, (fourNames.apply oneNamespace).fault? = some fault ∧
      fault.reason = "'b::c' is not a top-level namespace name" := by
  have hfault : oneNamespace.fault? = none := by decide +kernel
  have hlaid := laidOver_apply fourNames hfault
  obtain ⟨fault, hrefused, -, hreason⟩ :=
    hlaid.refused ["b", "a"] "b::c" ["b", ""] rfl (by decide +kernel) (by decide +kernel)
  refine ⟨hfault, ?_, fault, hrefused, hreason⟩
  rw [hlaid.generator]
  decide +kernel

end Invocation

end Bindery
