import Bindery.Binding.Report

/-!
# Generating the code for a file

The drafts for a translation unit are numbered from the run's counter, written out, and reported on.
-/

namespace Bindery

namespace Binding

/-- What is generated for one input file. -/
structure Generated where
  /-- The registration function. -/
  listing : Listing
  /-- What it contains and what was left out. -/
  report : Report
  deriving DecidableEq, Repr

/-- The generated text. -/
def Generated.code (generated : Generated) : String :=
  generated.listing.render

/-- The name of the registration function of a file. -/
def functionName (options : Options) (file : Path) : String :=
  options.functionPrefix ++ fileIdentifier file

/-- Numbers the drafts for a file. -/
def Generated.ofDrafts (options : Options) (file : Path) (drafts : List NamespaceDraft) :
    StateM Counter Generated := do
  let blocks ← drafts.mapM NamespaceDraft.block
  return ⟨⟨functionName options file, blocks⟩, .ofDrafts file drafts⟩

end Binding

open Binding

/-- Generates the code for the file that a translation unit was read from, with identifiers from
the counter on. The answer has the counter for the next file. Relative file names are seen from the
directory `base`, if there is one. -/
def TranslationUnit.generate (unit : TranslationUnit) (base : Option Path) (file : Path)
    (options : Options) (counter : Counter) : Query (Generated × Counter) := do
  let drafts ← unit.draft base options
  return (Generated.ofDrafts options file drafts).run counter

end Bindery
