import Bindery.Proofs.Run.Commands
import Bindery.Proofs.Run.Loads

/-!
# All or nothing

A run first gets its settings, then works on its files one after the other, and only then writes
code. So a run that cannot go through writes nothing but its log, and a run that succeeds writes the
code for all of its files. The parser is run on one source file after the other, until one of them
fails; nothing depends on what it would do with the others.
-/

namespace Bindery

open Binding

namespace Invocation

variable {invocation : Invocation} {host : Host} {settings : Settings}

end Invocation

/-- What they ask for. -/
def threeFiles : Invocation :=
  { files := ["a.hh", "b.hh", "c.hh"], namespaces := ["a"], output := some "out.cc" }

/-- A host with a file that is a translation unit, where the name of the standard output leads to
it. -/
def withDevices : Host :=
  { Host.ofTexts [("a.xml", "<u><Namespace id='0' name='::'/></u>")] with
    sink := fun file => if file = ⟨"/dev/stdout"⟩ then .ok .output else .ok .file }

end Bindery
