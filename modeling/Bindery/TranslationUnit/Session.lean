import Bindery.Log.Notice
import Bindery.TranslationUnit.Basic

/-!
# Sessions

Questions to a translation unit leave traces: the qualified names worked out so far, which are not
worked out twice, and the notices for the log. A `Query` is a question together with these traces.
-/

namespace Bindery

/-- What questions to one translation unit have left behind. -/
structure Session where
  /-- The qualified names worked out so far. -/
  names : Std.TreeMap NodeId String
  /-- The notices so far, in order. -/
  journal : Array Log.Notice

/-- A question to a translation unit. -/
abbrev Query := StateM Session

namespace Session

/-- Nothing asked yet, after the given notices. -/
def start (journal : Array Log.Notice) : Session :=
  ⟨∅, journal⟩

/-- Tells the log something. -/
def tell (notice : Log.Notice) : Query Unit :=
  modify fun session => { session with journal := session.journal.push notice }

end Session

/-- The notice that a translation unit was read. -/
def TranslationUnit.readNotice (unit : TranslationUnit) : Log.Notice :=
  .unitRead unit.size unit.top.length

end Bindery
