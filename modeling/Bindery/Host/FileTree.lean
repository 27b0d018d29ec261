import Bindery.Host.Basic

/-!
# File trees

A tree of files and directories in memory, and how a path is followed through it: every name on the
way has to be that of a directory or of a link to one, `..` goes up, and a path that ends in a slash
is one of a directory. Reading, writing and starting programs fail as they do on a real system. What
is written to a device goes where the device says.
-/

namespace Bindery

/-- What a file is that is no directory. -/
inductive FileKind where
  /-- A regular file. -/
  | regular
  /-- A device, where what is written goes somewhere else. -/
  | device (sink : Sink)
  /-- A device that has no room for anything. -/
  | full
  deriving DecidableEq, Repr

/-- A file. -/
structure FileEntry where
  /-- Its content. -/
  content : List UInt8
  /-- Whether it may be run as a program. -/
  isProgram : Bool
  /-- What it is. -/
  kind : FileKind := .regular
  deriving DecidableEq, Repr

/-- Where what is written to a file goes. -/
def FileEntry.sink (entry : FileEntry) : Except FileFault Sink :=
  match entry.kind with
  | .regular => .ok .file
  | .device sink => .ok sink
  | .full => .error (.os .noSpace)

/-- Files and directories by their names from the root down. -/
structure FileTree where
  /-- The directories other than the root. -/
  directories : List (List (List Char))
  /-- The files. -/
  files : List (List (List Char) × FileEntry)
  /-- The links to directories, with the names of what they lead to. -/
  links : List (List (List Char) × List (List Char)) := []
  deriving DecidableEq, Repr

namespace FileTree

/-- The tree with nothing but its root. -/
def empty : FileTree :=
  ⟨[], [], []⟩

/-- What a path leads to. -/
inductive Place where
  /-- A directory. -/
  | directory
  /-- A file. -/
  | file (entry : FileEntry)
  deriving DecidableEq, Repr

/-- What stands under the given names. -/
def place? (tree : FileTree) (names : List (List Char)) : Option Place :=
  if names = [] ∨ names ∈ tree.directories then some .directory
  else (tree.files.lookup names).map .file

/-- What a link leads to, and otherwise the place itself. The names are held deepest first. -/
def target (tree : FileTree) (above : List (List Char)) : List (List Char) :=
  ((tree.links.lookup above.reverse).map List.reverse).getD above

/-- The greatest number of bytes in a name, and in a whole path with its end mark. -/
def maxName : Nat := 255

/-- The number of bytes at which a whole path is too long. -/
def maxPath : Nat := 4096

/-- One step from a directory, given by its names with the deepest first. -/
def enter (tree : FileTree) (above : List (List Char)) :
    Path.Component → Except OsFault (List (List Char))
  | .root => .ok []
  | .here => needDirectory above above
  | .up => needDirectory above above.tail
  | .name text => do
    let _ ← needDirectory above above
    if maxName < Text.byteLength text then .error .nameTooLong
    else
      let reached := tree.target (text :: above)
      if (tree.place? reached.reverse).isSome then .ok reached else .error .notFound
where
  /-- The answer, if what has been reached is a directory. -/
  needDirectory (reached answer : List (List Char)) : Except OsFault (List (List Char)) :=
    match tree.place? reached.reverse with
    | some .directory => .ok answer
    | some (.file _) => .error .notDirectory
    | none => .error .notFound

/-- The last part of a path, behind its last slash. -/
def lastPart (p : Path) : List Char :=
  p.parts.getLastD []

/-- A path whose last part names nothing of its own stands for a directory. -/
def endsInDirectory (p : Path) : Bool :=
  (Path.componentOf? (lastPart p)).isNone

/-- The path as it is followed from the root: with the directory in front if it is relative, and
with a `.` behind it if it stands for a directory. -/
def steps (directory p : Path) : List Path.Component :=
  (directory.joinTo p).components ++ if endsInDirectory p then [.here] else []

/-- A path that no file can have. -/
def pathFault? (p : Path) : Option FileFault :=
  if p.text.toList.contains '\x00' then some .zeroInName
  else if p.text.isEmpty then some (.os .notFound)
  else if maxPath ≤ Text.byteLength p.text.toList then some (.os .nameTooLong)
  else none

/-- The names from the root down to what steps from the root lead to. -/
def follow (tree : FileTree) (steps : List Path.Component) :
    Except FileFault (List (List Char)) :=
  match steps.foldlM tree.enter [] with
  | .ok above => .ok above.reverse
  | .error fault => .error (.os fault)

/-- What a path leads to, with its names from the root down. -/
def find (tree : FileTree) (directory p : Path) :
    Except FileFault (List (List Char) × Place) := do
  if let some fault := pathFault? p then .error fault
  else
    let names ← tree.follow (steps directory p)
    match tree.place? names with
    | some place => .ok (names, place)
    | none => .error (.os .notFound)

/-- What stands under a path. -/
def stat (tree : FileTree) (directory p : Path) : Except FileFault EntryKind := do
  match ← tree.find directory p with
  | (_, .directory) => return .other
  | (_, .file entry) => return if entry.kind = .regular then .regular else .other

/-- The content of the file that a path leads to. -/
def read (tree : FileTree) (directory p : Path) : Except FileFault (List UInt8) := do
  match ← tree.find directory p with
  | (_, .directory) => .error (.os .isDirectory)
  | (_, .file entry) => .ok entry.content

/-- The last part of a path that is not empty. -/
def lastStep? (p : Path) : Option Path.Component :=
  (p.parts.filter (!·.isEmpty)).getLast?.bind Path.componentOf?

/-- Where what is written to a file of that name goes: there has to be a directory for it, and no
directory in its place. A file that is not there is made. A path whose last step is `.` or `..`, or
that ends in a slash, is one of a directory, whether that is there or not. -/
def sink (tree : FileTree) (directory p : Path) : Except FileFault Sink := do
  if let some fault := pathFault? p then .error fault
  else
    let way := (directory.joinTo p).components
    match lastStep? p with
    | some (.name text) =>
      let names ← tree.follow (way.dropLast ++ [.here])
      if lastPart p = [] then .error (.os .isDirectory)
      else if maxName < Text.byteLength text then .error (.os .nameTooLong)
      else
        match tree.place? (tree.target (text :: names.reverse)).reverse with
        | some .directory => .error (.os .isDirectory)
        | some (.file entry) => entry.sink
        | none => .ok .file
    | _ =>
      let _ ← tree.follow (way ++ [.here])
      .error (.os .isDirectory)

/-- Adds a directory, if it is not there. -/
def addDirectory (tree : FileTree) (names : List (List Char)) : FileTree :=
  if names = [] ∨ names ∈ tree.directories then tree
  else { tree with directories := tree.directories ++ [names] }

/-- Adds the directories on a way from the root. The answer has the names of the last one, deepest
first. -/
def addWay (tree : FileTree) (way : List Path.Component) : FileTree × List (List Char) :=
  way.foldl
    (fun (reached : FileTree × List (List Char)) component =>
      let above := reached.1.target (Path.walk reached.2 component)
      (reached.1.addDirectory above.reverse, above))
    (tree, [])

/-- Adds a directory and those it stands in. -/
def withDirectory (tree : FileTree) (directory p : Path) : FileTree :=
  (tree.addWay (directory.joinTo p).components).1

/-- Adds the directories that a path stands in. The answer has the names of the path's own place. -/
def makeRoom (tree : FileTree) (directory p : Path) : FileTree × List (List Char) :=
  let way := (directory.joinTo p).components
  let (grown, above) := tree.addWay way.dropLast
  (grown, (way.getLast?.toList.foldl Path.walk above).reverse)

/-- Adds a file and the directories it stands in. -/
def withFile (tree : FileTree) (directory p : Path) (entry : FileEntry) : FileTree :=
  let (grown, names) := tree.makeRoom directory p
  { grown with files := (grown.files.filter (·.1 != names)) ++ [(names, entry)] }

/-- Adds a link to a directory, and the directories it stands in. -/
def withLink (tree : FileTree) (directory p linked : Path) : FileTree :=
  let (grown, names) := tree.makeRoom directory p
  { grown with links := grown.links ++ [(names, (directory.joinTo linked).names)] }

/-- The names of the program that a path leads to. -/
def programAt (tree : FileTree) (directory p : Path) : Except OsFault (List (List Char)) :=
  match tree.find directory p with
  | .ok (names, .file entry) => if entry.isProgram then .ok names else .error .denied
  | .ok (_, .directory) => .error .denied
  | .error (.os fault) => .error fault
  | .error _ => .error .notFound

/-- Looks for a program in directories, one after the other. Where it is not to be found, or may not
be run, the search goes on; any other fault ends it. If no directory is left, the fault is that of
the last one, unless there was a file that may not be run. -/
def searchProgram (tree : FileTree) (directory : Path) (word : String) (last : OsFault) :
    List (List Char) → Except OsFault (List (List Char))
  | [] => .error last
  | place :: places =>
    let candidate : Path :=
      ⟨if place.isEmpty then word else String.ofList place ++ "/" ++ word⟩
    match tree.programAt directory candidate with
    | .ok names => .ok names
    | .error fault =>
      if fault = .denied ∨ fault = .notFound ∨ fault = .notDirectory then
        searchProgram tree directory word (if last = .denied then .denied else fault) places
      else .error fault

/-- The directories of a search path. One that no path can begin with is taken for the current
directory, or left out if it is the last. -/
def searchPlaces (searchPath : String) : List (List Char) :=
  let places := Text.fields (· == ':') searchPath.toList
  let isTooLong (place : List Char) : Bool := maxPath ≤ Text.byteLength place
  places.dropLast.map (fun place => if isTooLong place then [] else place)
    ++ places.getLast?.toList.filter (!isTooLong ·)

/-- Finds the program that a word stands for: by its path if the word has a slash in it, and in the
directories of the search path otherwise. Of a word that is too long for a name, no more is looked
for than makes it so. -/
def program (tree : FileTree) (directory : Path) (searchPath word : String) :
    Except OsFault (List (List Char)) :=
  if word.isEmpty then .error .notFound
  else if word.toList.contains '/' then tree.programAt directory ⟨word⟩
  else
    tree.searchProgram directory (String.ofList (word.toList.take (maxName + 1))) .noChild
      (searchPlaces searchPath)

end FileTree

/-- The host that has a tree of files, and programs in it that do what `behaviour` says: it is given
the names of the program and the arguments. -/
def Host.ofTree (tree : FileTree) (directory home : Path) (environment : Environment)
    (behaviour : List (List Char) → List String → Completion) : Host where
  directory := some directory
  environment := environment
  home := some home
  stat := tree.stat directory
  read := tree.read directory
  execute words :=
    match words with
    | [] => .error (.os .notFound)
    | word :: arguments =>
      if words.any (·.toList.contains '\x00') then .error .zeroInWord
      else
        match tree.program directory ((environment.get? "PATH").getD "/bin:/usr/bin") word with
        | .ok names => .ok (behaviour names arguments)
        | .error fault => .error (.os fault)
  sink := tree.sink directory
  outputFault? := none

end Bindery
