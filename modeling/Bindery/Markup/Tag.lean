import Bindery.Markup.Escape

/-!
# Tags

A tag's content is what stands between its angle brackets. It begins with the element's name, which
runs to the first space, and goes on with attributes. `readAttributes` reads these from left to
right and stops at the first fault; each value is unescaped before the next key is looked at.
-/

namespace Bindery.Markup

open Bindery.Text (byteLength)

/-- The four characters that separate the parts of a tag. -/
def isSpace (c : Char) : Bool :=
  c == ' ' || c == '\t' || c == '\r' || c == '\n'

/-- A tag that opens an element: what stands between its angle brackets, without the `/` of an
element that has no content. -/
structure Tag where
  /-- Name and attributes as they were written. -/
  content : List Char
  deriving DecidableEq, Repr

/-- The element's name. It may be empty, and no character but a space ends it. -/
def Tag.name (tag : Tag) : List Char :=
  tag.content.takeWhile (!isSpace ·)

/-- A key that was met before, with the byte offset of its first character. -/
abbrev SeenKey := List Char × Nat

/-- A space or `=` ends a key, but not as its first character. -/
def endsKey (c : Char) : Bool :=
  c == '=' || isSpace c

/-- Dropping from the front leaves a list no longer. -/
theorem length_dropWhile_le (p : Char → Bool) (text : List Char) :
    (text.dropWhile p).length ≤ text.length :=
  (List.dropWhile_suffix p).length_le

/-- Reads a quoted value that stands behind an `=`, and returns what is between the quotes and what
follows them. The tag's content is `length` bytes long. -/
def readValue (length : Nat) (text : List Char) :
    Except AttributeError (List Char × List Char) :=
  match text.dropWhile isSpace with
  | [] => .error (.noValue length)
  | quote :: quoted =>
    if quote = '"' ∨ quote = '\'' then
      match quoted.dropWhile (· != quote) with
      | _ :: rest => .ok (quoted.takeWhile (· != quote), rest)
      | [] => .error (.noClosingQuote length quote)
    else .error (.unquoted (length - byteLength (quote :: quoted)))

/-- What follows a value is shorter than the text it was read from. -/
theorem length_lt_of_readValue {length : Nat} {text : List Char} {found : List Char × List Char}
    (h : readValue length text = .ok found) : found.2.length < text.length := by
  unfold readValue at h
  split at h
  · cases h
  next quote quoted hquoted =>
    have houter := length_dropWhile_le isSpace text
    rw [hquoted, List.length_cons] at houter
    split at h
    · split at h
      next rest hclose =>
        cases h
        have hinner := length_dropWhile_le (· != quote) quoted
        rw [hclose, List.length_cons] at hinner
        change rest.length < text.length
        omega
      · cases h
    · cases h

/-- Reads the attribute whose key is `key`, begins with the first character of `start` and is
followed by `text`. The answer is the value as it was written and what follows it. -/
def readAttribute (length : Nat) (seen : List SeenKey) (key start text : List Char) :
    Except AttributeError (List Char × List Char) :=
  match text.dropWhile isSpace with
  | '=' :: afterEquals =>
    match seen.lookup key with
    | some earlier => .error (.duplicate (length - byteLength start) earlier)
    | none => readValue length afterEquals
  | rest => .error (.noEquals (length - byteLength rest))

/-- What follows an attribute is shorter than what its key was followed by. -/
theorem length_lt_of_readAttribute {length : Nat} {seen : List SeenKey}
    {key start text : List Char} {found : List Char × List Char}
    (h : readAttribute length seen key start text = .ok found) :
    found.2.length < text.length := by
  unfold readAttribute at h
  split at h
  next afterEquals hequals =>
    split at h
    · cases h
    · have hvalue := length_lt_of_readValue h
      have hspace := length_dropWhile_le isSpace text
      rw [hequals, List.length_cons] at hspace
      omega
  · cases h

/-- Reads the attributes that remain in a tag whose content is `length` bytes long. -/
def readAttributesFrom (length : Nat) (seen : List SeenKey) (text : List Char) :
    Except Error (List (String × String)) :=
  match _hstart : text.dropWhile isSpace with
  | [] => .ok []
  | first :: rest =>
    let key := first :: rest.takeWhile (!endsKey ·)
    match _hfound : readAttribute length seen key (first :: rest) (rest.dropWhile (!endsKey ·)) with
    | .error cause => .error (.attribute cause)
    | .ok found => do
      let value ← (unescape found.1).mapError .escape
      let position := length - byteLength (first :: rest)
      let others ← readAttributesFrom length ((key, position) :: seen) found.2
      return (String.ofList key, String.ofList value) :: others
termination_by text.length
decreasing_by
  have hspace := length_dropWhile_le isSpace text
  have hkey := length_dropWhile_le (!endsKey ·) rest
  have hvalue := length_lt_of_readAttribute _hfound
  rw [_hstart, List.length_cons] at hspace
  omega

/-- The attributes of a tag in the order in which they were written. Their keys are distinct. -/
def Tag.attributes (tag : Tag) : Except Error (List (String × String)) :=
  readAttributesFrom (byteLength tag.content) [] (tag.content.dropWhile (!isSpace ·))

end Bindery.Markup
