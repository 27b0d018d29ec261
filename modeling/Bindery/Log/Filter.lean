import Bindery.Log.Directive

/-!
# Log filters

A filter says which records reach the log. It is written as directives with commas between them. Of
the directives that hold for a record, the one that describes it most closely decides.
-/

namespace Bindery.Log

/-- Which records reach the log. -/
abbrev Filter := List Directive

namespace Filter

/-- The filter that lets through what is at least as important as the given level. -/
def ofLevel (level : Level) : Filter :=
  [⟨.records none none, level.rank⟩]

/-- Reads a filter. Nothing between two commas is no directive, and without any directive only
errors are let through. -/
def read? (text : String) : Option Filter := do
  let pieces := (Text.fields (· == ',') text.toList).filter (!·.isEmpty)
  if pieces.isEmpty then return ofLevel .error else pieces.mapM Directive.read?

/-- The closest of two directives; if neither describes records more closely, the second. -/
def closest (known : Option Directive) (directive : Directive) : Option Directive :=
  match known with
  | some best => if directive.isVaguerThan best then best else directive
  | none => directive

/-- The directive that decides about a record. -/
def directive? (filter : Filter) (record : Record) : Option Directive :=
  (filter.filter (·.holdsFor record)).foldl closest none

/-- Whether a record reaches the log. -/
def lets (filter : Filter) (record : Record) : Bool :=
  (filter.directive? record).any fun directive => record.level.rank ≤ directive.rank

end Filter

end Bindery.Log
