import Bindery.Text.Blank

/-!
# File paths

A path is text; what it means is its list of components. Two paths name the same place when their
components agree, the canonical absolute form folds `.` and `..` without looking at any file, and
the base name is the last component if that is an ordinary one.
-/

namespace Bindery

/-- A file path as it was written. -/
structure Path where
  /-- The written form. -/
  text : String
  deriving DecidableEq, Repr

namespace Path

/-- One step of a path. -/
inductive Component where
  /-- The leading `/`. -/
  | root
  /-- A leading `.` of a relative path. -/
  | here
  /-- A `..`. -/
  | up
  /-- An ordinary name. -/
  | name (text : List Char)
  deriving DecidableEq, Repr

/-- A path that begins at the root. -/
def isAbsolute (p : Path) : Bool :=
  p.text.toList.head? == some '/'

/-- The parts of a path between its slashes. -/
def parts (p : Path) : List (List Char) :=
  Text.fields (· == '/') p.text.toList

/-- The component that a part between slashes stands for. Empty parts and `.` stand for none. -/
def componentOf? (part : List Char) : Option Component :=
  match part with
  | [] => none
  | ['.'] => none
  | ['.', '.'] => some .up
  | _ => some (.name part)

/-- The components of a path: the root if it is absolute, a `.` only where a relative path begins
with it, and then one for each part that is neither empty nor `.`. -/
def components (p : Path) : List Component :=
  let steps := p.parts.filterMap componentOf?
  if p.isAbsolute then .root :: steps
  else if p.parts.head? == some ['.'] then .here :: steps
  else steps

/-- Two spellings of one place, as far as their components tell. -/
def same (p q : Path) : Bool :=
  p.components == q.components

/-- The last component, if it is an ordinary name. -/
def fileName? (p : Path) : Option (List Char) :=
  match p.components.getLast? with
  | some (.name text) => some text
  | _ => none

/-- The path `p`, read from inside the directory `base`. -/
def joinTo (base p : Path) : Path :=
  if p.isAbsolute then p
  else match base.text.toList.getLast? with
    | none | some '/' => ⟨base.text ++ p.text⟩
    | some _ => ⟨base.text ++ "/" ++ p.text⟩

/-- One step of a walk that starts at the root: names go down, `..` goes up and stays at the root.
The names are held deepest first. -/
def walk (above : List (List Char)) : Component → List (List Char)
  | .root => []
  | .here => above
  | .up => above.tail
  | .name text => text :: above

/-- The absolute path with the given names below the root. -/
def ofNames (names : List (List Char)) : Path :=
  match names with
  | [] => ⟨"/"⟩
  | _ => ⟨String.ofList (names.flatMap ('/' :: ·))⟩

/-- The names below the root that a walk along the components arrives at. -/
def names (p : Path) : List (List Char) :=
  (p.components.foldl walk []).reverse

/-- The canonical absolute form of `p` as seen from the directory `base`. -/
def absolute (base p : Path) : Path :=
  ofNames (base.joinTo p).names

/-- The canonical absolute form of `p` as seen from a directory, if there is one. Without a
directory, a relative path has no such form. -/
def absolute? (directory : Option Path) (p : Path) : Option Path :=
  if p.isAbsolute then some (ofNames p.names) else directory.map (absolute · p)

/-- The directories from a given one outwards, up to the root. -/
def around (directory : Path) : List Path :=
  let names := directory.names
  (List.range (names.length + 1)).map fun up => .ofNames (names.take (names.length - up))

/-- What the path `p` stands for in a directory and in those around it, nearest first. An absolute
path stands for the same everywhere, and a relative one for nothing where there is no directory. -/
def outward (directory : Option Path) (p : Path) : List Path :=
  if p.isAbsolute then [p] else directory.toList.flatMap fun place => place.around.map (·.joinTo p)

/-- The steps from the end of one list of components to the end of another: up from what only the
first has, then down to the second. -/
def stepsBetween : List Component → List Component → List Component
  | b :: base, c :: rest =>
    if b = c then stepsBetween base rest else (b :: base).map (fun _ => .up) ++ c :: rest
  | base, rest => base.map (fun _ => .up) ++ rest

/-- The written form of a component. -/
def Component.text : Component → List Char
  | .root => []
  | .here => ['.']
  | .up => ['.', '.']
  | .name text => text

/-- How the path `p` is shown in the directory `base`: by the way from there, if that takes fewer
steps than the way from the root. -/
def shownIn (base p : Path) : Path :=
  let full := base.joinTo p
  let steps := stepsBetween base.components full.components
  if steps.length < full.components.length then
    ⟨String.ofList (['/'].intercalate (steps.map Component.text))⟩
  else full

end Path

end Bindery
