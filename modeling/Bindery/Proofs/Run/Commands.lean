import Bindery.Proofs.Run.Ending
import Bindery.Proofs.Run.Parser

/-!
# Commands of a run

A run starts the parser on its source files, one after the other, up to the first one for which no
code can be generated. It runs nothing else, so that nothing depends on what other commands would
do.
-/

namespace Bindery

open Binding

namespace Job

variable {job : Job} {host : Host} {file : Path} {files : List Path} {counter : Counter}
  {trace : Trace}

end Job

namespace Invocation

variable {invocation : Invocation} {host : Host} {settings : Settings} {error : RunError}
  {commands : List (List String)} {execute : List String → Except LaunchFault Completion}

end Invocation

end Bindery
