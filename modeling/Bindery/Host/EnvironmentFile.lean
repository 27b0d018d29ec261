import Bindery.Host.Basic
import Bindery.Text.Letter
import Bindery.Text.Reader

/-!
# Environment files

A file of assignments `NAME=value` completes the environment of a run. The assignments are read in
order, each in the environment that those before it leave behind. A variable that is set already
keeps its value, and a line that is no assignment ends the reading.
-/

namespace Bindery.EnvironmentFile

open Bindery.Text (Reader)

/-! ### Lines -/

/-- How far the text of a line has come. -/
inductive LineState where
  /-- Nothing but blanks so far. -/
  | start
  /-- Outside quotes. -/
  | plain
  /-- Outside quotes, behind a blank. -/
  | blank
  /-- Outside quotes, behind a backslash. -/
  | escaped
  /-- Between quotes of the given kind. -/
  | quoted (mark : Char)
  /-- Between quotes of the given kind, behind a backslash. -/
  | quotedEscaped (mark : Char)
  /-- In a comment. -/
  | comment
  deriving DecidableEq, Repr

namespace LineState

/-- The state behind a character outside quotes that is no blank. -/
def behind (c : Char) : LineState :=
  if c = '\\' then .escaped
  else if c = '"' ∨ c = '\'' then .quoted c
  else .plain

/-- The state behind one more character. A `#` begins a comment only at the start of a line or
behind a single blank. -/
def next (state : LineState) (c : Char) : LineState :=
  match state with
  | .start => if Text.isBlank c then .start else if c = '#' then .comment else behind c
  | .plain => if c ≠ '\r' ∧ Text.isBlank c then .blank else behind c
  | .blank => if c = '#' then .comment else behind c
  | .escaped => .plain
  | .quoted mark =>
    if c = '\\' then .quotedEscaped mark else if c = mark then .plain else .quoted mark
  | .quotedEscaped mark => .quoted mark
  | .comment => .comment

/-- Between quotes a line goes on behind a line break. -/
def endsAtBreak : LineState → Bool
  | .quoted _ | .quotedEscaped _ => false
  | _ => true

/-- A line may end with the file, but not behind a blank or a backslash. -/
def endsAtEnd : LineState → Bool
  | .start | .plain | .comment => true
  | _ => false

end LineState

/-- Cuts a text into lines, without their line breaks and comments, where `taken` holds what is
taken of the first line already, last character first. A line that does not end is left out. -/
def lines (state : LineState) (taken : List Char) : List Char → List (List Char)
  | [] => if state.endsAtEnd then [taken.reverse] else []
  | c :: rest =>
    if c = '\n' ∧ state.endsAtBreak then taken.reverse :: lines .start [] rest
    else
      match state.next c with
      | .comment => lines .comment taken rest
      | next => lines next (c :: taken) rest

/-- The text of a file up to the first line that is no text, without a byte order mark. -/
def readable (content : List UInt8) : List Char :=
  let text :=
    match Text.decode content with
    | .ok text => text.toList
    | .error error => Text.trimEnd (· != '\n') (Text.decodeBefore error content)
  match text with
  | '\ufeff' :: rest => rest
  | _ => text

/-! ### Values -/

/-- How far the text of a value has come. -/
inductive ValueState where
  /-- Outside quotes, or between double quotes. -/
  | plain (inQuotes : Bool)
  /-- The same, behind a backslash. -/
  | escaped (inQuotes : Bool)
  /-- Between single quotes. -/
  | literal
  /-- In the name of a variable behind `$`, of which the given letters are read, the last one
  first. -/
  | name (inQuotes : Bool) (letters : List Char)
  /-- In the name of a variable between braces, as above. -/
  | braced (inQuotes : Bool) (letters : List Char)
  /-- Behind the value. -/
  | ended
  deriving DecidableEq, Repr

/-- The character that an escape stands for. -/
def unescaped? (c : Char) : Option Char :=
  if c = 'n' then some '\n'
  else if c = '\\' ∨ c = '\'' ∨ c = '"' ∨ c = '$' ∨ c = ' ' then some c
  else none

/-- A blank that separates a value from what follows it. -/
def separates (c : Char) : Bool :=
  c == ' ' || c == '\t'

/-- The value that a text stands for, with `lookup` for the values of variables. Behind the name of
a variable the next character stands for itself. -/
def value (lookup : List Char → List Char) (state : ValueState) :
    List Char → Option (List Char)
  | [] =>
    match state with
    | .plain false | .escaped false | .ended => some []
    | .name false letters => some (lookup letters.reverse)
    | _ => none
  | c :: rest =>
    match state with
    | .ended =>
      if separates c then value lookup .ended rest else if c = '#' then some [] else none
    | .escaped inQuotes => do
      let plain ← unescaped? c
      return plain :: (← value lookup (.plain inQuotes) rest)
    | .literal => do
      if c = '\'' then value lookup (.plain false) rest
      else return c :: (← value lookup .literal rest)
    | .name inQuotes letters => do
      if Text.isLetterOrDigit c then value lookup (.name inQuotes (c :: letters)) rest
      else if c = '\x7b' ∧ letters = [] then value lookup (.braced inQuotes []) rest
      else
        let found := lookup letters.reverse
        if c = '$' then return found ++ (← value lookup (.name inQuotes []) rest)
        else return found ++ c :: (← value lookup (.plain inQuotes) rest)
    | .braced inQuotes letters => do
      if c = '\x7d' then
        return lookup letters.reverse ++ (← value lookup (.plain inQuotes) rest)
      else value lookup (.braced inQuotes (c :: letters)) rest
    | .plain inQuotes => do
      if c = '$' then value lookup (.name inQuotes []) rest
      else if c = '\\' then value lookup (.escaped inQuotes) rest
      else if c = '"' then value lookup (.plain (!inQuotes)) rest
      else if !inQuotes && c == '\'' then value lookup .literal rest
      else if !inQuotes && separates c then value lookup .ended rest
      else return c :: (← value lookup (.plain inQuotes) rest)

/-! ### Assignments -/

/-- What a line says. -/
inductive Line where
  /-- Nothing: it is empty or a comment. -/
  | nothing
  /-- That a variable has a value. -/
  | assignment (name value : String)
  deriving DecidableEq, Repr

/-- Blanks. -/
def blanks : Reader Unit := do
  let _ ← Reader.run Text.isBlank

/-- The name of a variable, and the blanks behind it. -/
def name : Reader String := do
  let first ← Reader.satisfying fun c => c.isAlpha || c == '_'
  let others ← Reader.run fun c => c.isAlphanum || c == '_' || c == '.'
  blanks
  return String.ofList (first :: others)

/-- The name of a variable and the mark behind it. The word `export` may stand in front. -/
def target : Reader String := do
  let first ← name
  (Reader.char '=' *> pure first) <|> do
    guard (first = "export")
    let second ← name
    Reader.char '='
    return second

/-- What a line says, or nothing if it is malformed. -/
def readLine (environment : Environment) (line : List Char) : Option Line := do
  match (Text.trim line) with
  | [] => return .nothing
  | '#' :: _ => return .nothing
  | text =>
    let (name, rest) ← (target <* blanks) text
    match rest with
    | [] => return .assignment name ""
    | '#' :: _ => return .assignment name ""
    | _ =>
      let lookup letters := (environment.find? letters).getD []
      return .assignment name (String.ofList (← value lookup (.plain false) rest))

/-- The environment after reading lines, up to the first that is malformed. -/
def readLines (environment : Environment) : List (List Char) → Environment
  | [] => environment
  | line :: rest =>
    match readLine environment line with
    | none => environment
    | some .nothing => readLines environment rest
    | some (.assignment name value) =>
      match environment.get? name with
      | some _ => readLines environment rest
      | none => readLines (environment.set name value) rest

/-- The environment completed by the content of a file. -/
def complete (environment : Environment) (content : List UInt8) : Environment :=
  readLines environment (lines .start [] (readable content))

/-- The name of environment files. -/
def file : Path := ⟨".env"⟩

end EnvironmentFile

namespace Host

/-- The first regular file under some paths. The search ends at a path of which the host cannot tell
what stands under it, unless nothing does. -/
def firstFile? (host : Host) : List Path → Option Path
  | [] => none
  | place :: others =>
    match host.stat place with
    | .ok .regular => some place
    | .ok .other => host.firstFile? others
    | .error fault => if fault = .os .notFound then host.firstFile? others else none

/-- The host with its environment completed by the nearest environment file, if that can be read. -/
def withEnvironmentFile (host : Host) : Host :=
  match (host.firstFile? (Path.outward host.directory EnvironmentFile.file)).map host.read with
  | some (.ok content) =>
    { host with environment := EnvironmentFile.complete host.environment content }
  | _ => host

end Host

end Bindery
