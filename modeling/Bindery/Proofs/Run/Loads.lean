import Bindery.Proofs.Binding.Spelled
import Bindery.Proofs.Run.Identifiers
import Bindery.Proofs.Run.Parser

/-!
# Files that load

There is a translation unit for a file if each of a few steps goes well: the file is read, or else
the parser is run on it, ends well and writes text; and the text is that of a unit. Where the work
on files succeeds, each of them has loaded, and code was generated for each.
-/

namespace Bindery

open Binding

namespace Work

variable {ε δ α β : Type} {trace : Trace}

end Work

namespace Host

variable {host : Host} {file : Path} {unit : TranslationUnit} {trace : Trace}

end Host

namespace Job

variable {job : Job} {host : Host} {file : Path} {files : List Path} {counter : Counter}
  {trace : Trace}

end Job

end Bindery
