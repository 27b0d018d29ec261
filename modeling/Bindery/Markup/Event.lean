import Bindery.Markup.Tag

/-!
# The elements of a marked-up text, as events

`Reading.ofText` turns a text into the sequence of its element boundaries. Text between tags,
comments, character data, instructions and document type declarations yield nothing, but have to be
delimited. End tags have to match the innermost open element. Where the text cannot be read on, the
events before that point stand, and the reading ends with the fault.
-/

namespace Bindery.Markup

open Bindery.Text (afterFirst)

/-- A boundary of an element. -/
inductive Event where
  /-- The start of an element that has content. -/
  | opened (tag : Tag)
  /-- An element without content. -/
  | empty (tag : Tag)
  /-- The end of the innermost open element. -/
  | closed
  deriving DecidableEq, Repr

/-- What a piece of markup is, once it is delimited. -/
inductive Piece where
  /-- The start tag of an element that has content. -/
  | opening (tag : Tag)
  /-- The tag of an element without content. -/
  | empty (tag : Tag)
  /-- An end tag, with the name in it. -/
  | closing (name : List Char)
  /-- Markup that says nothing about elements. -/
  | silent
  deriving DecidableEq, Repr

/-- Cuts a tag at the first `>` outside quotes; `quote` is the quote that stands open. -/
def cutTag (quote : Option Char) : List Char → Option (List Char × List Char)
  | [] => none
  | c :: rest =>
    match quote with
    | none =>
      if c = '>' then some ([], rest)
      else
        (cutTag (if c = '"' ∨ c = '\'' then some c else none) rest).map fun cut =>
          (c :: cut.1, cut.2)
    | some q =>
      (cutTag (if c = q then none else some q) rest).map fun cut => (c :: cut.1, cut.2)

/-- Cuts a document type declaration at the `>` that balances the `<` in it, of which `unbalanced`
are not balanced yet. -/
def cutBalanced (unbalanced : Nat) : List Char → Option (List Char × List Char)
  | [] => none
  | c :: rest =>
    if c = '<' then (cutBalanced (unbalanced + 1) rest).map fun cut => (c :: cut.1, cut.2)
    else if c = '>' then
      match unbalanced with
      | 0 => some ([], rest)
      | less + 1 => (cutBalanced less rest).map fun cut => (c :: cut.1, cut.2)
    else (cutBalanced unbalanced rest).map fun cut => (c :: cut.1, cut.2)

/-- The name in an end tag: spaces behind it do not count, unless there is nothing else. -/
def endName (content : List Char) : List Char :=
  match Text.trimEnd isSpace content with
  | [] => content
  | name => name

/-- The piece that the content of an opening tag makes. -/
def openingPiece (content : List Char) : Piece :=
  if content.getLast? = some '/' then .empty ⟨content.dropLast⟩ else .opening ⟨content⟩

/-- Passes over a part that runs to the first `mark`. -/
def passOver (mark : String) (cause : DelimiterError) (text : List Char) :
    Except Error (List Char) :=
  match afterFirst mark.toList text with
  | some rest => .ok rest
  | none => .error (.delimiter cause)

/-- The word that a document type declaration begins with, in letters of either case. -/
def documentTypeWord : List Char :=
  "DOCTYPE".toList

/-- Passes over a document type declaration, which is given without its `<!`. -/
def passOverDocumentType (text : List Char) : Except Error (List Char) :=
  if (text.take documentTypeWord.length).map Char.toUpper = documentTypeWord then
    match cutBalanced 0 (text.drop documentTypeWord.length) with
    | some (content, rest) =>
      if content.all isSpace then .error (.nesting .namelessDocumentType) else .ok rest
    | none => .error (.delimiter .documentType)
  else .error (.delimiter .documentType)

/-- Passes over what begins with `<!`. The next character tells which kind it is to be. -/
def passOverDeclaration : List Char → Except Error (List Char)
  | '-' :: '-' :: rest => passOver "-->" .comment rest
  | '-' :: _ => .error (.delimiter .comment)
  | '[' :: 'C' :: 'D' :: 'A' :: 'T' :: 'A' :: '[' :: rest => passOver "]]>" .characterData rest
  | '[' :: _ => .error (.delimiter .characterData)
  | 'D' :: rest => passOverDocumentType ('D' :: rest)
  | 'd' :: rest => passOverDocumentType ('d' :: rest)
  | _ => .error (.delimiter .declaration)

/-- Passes over what begins with `<?`. -/
def passOverInstruction : List Char → Except Error (List Char)
  | '>' :: _ => .error (.delimiter .instruction)
  | text => passOver "?>" .instruction text

/-- Reads the piece of markup that begins with a `<`, which is left out of `text`, and returns what
follows it. -/
def readPiece (text : List Char) : Except Error (Piece × List Char) :=
  match text with
  | '!' :: rest => (passOverDeclaration rest).map fun left => (.silent, left)
  | '?' :: rest => (passOverInstruction rest).map fun left => (.silent, left)
  | '/' :: rest =>
    match cutTag none rest with
    | some (content, left) => .ok (.closing (endName content), left)
    | none => .error (.delimiter .tag)
  | _ =>
    match cutTag none text with
    | some (content, left) => .ok (openingPiece content, left)
    | none => .error (.delimiter .tag)

/-- What follows a tag is shorter than the text it was cut from. -/
theorem length_lt_of_cutTag {quote : Option Char} {text : List Char}
    {cut : List Char × List Char} (h : cutTag quote text = some cut) :
    cut.2.length < text.length := by
  induction text generalizing quote cut with
  | nil => cases h
  | cons c rest ih =>
    unfold cutTag at h
    split at h
    · split at h
      · cases h
        exact Nat.lt_succ_self rest.length
      · obtain ⟨inner, hinner, rfl⟩ := Option.map_eq_some_iff.1 h
        have hlt := ih hinner
        exact Nat.lt_succ_of_lt hlt
    · obtain ⟨inner, hinner, rfl⟩ := Option.map_eq_some_iff.1 h
      have hlt := ih hinner
      exact Nat.lt_succ_of_lt hlt

/-- What follows a balanced part is shorter than the text it was cut from. -/
theorem length_lt_of_cutBalanced {unbalanced : Nat} {text : List Char}
    {cut : List Char × List Char} (h : cutBalanced unbalanced text = some cut) :
    cut.2.length < text.length := by
  induction text generalizing unbalanced cut with
  | nil => cases h
  | cons c rest ih =>
    unfold cutBalanced at h
    split at h
    · obtain ⟨inner, hinner, rfl⟩ := Option.map_eq_some_iff.1 h
      have hlt := ih hinner
      exact Nat.lt_succ_of_lt hlt
    · split at h
      · split at h
        · cases h
          exact Nat.lt_succ_self rest.length
        · obtain ⟨inner, hinner, rfl⟩ := Option.map_eq_some_iff.1 h
          have hlt := ih hinner
          exact Nat.lt_succ_of_lt hlt
      · obtain ⟨inner, hinner, rfl⟩ := Option.map_eq_some_iff.1 h
        have hlt := ih hinner
        exact Nat.lt_succ_of_lt hlt

/-- Passing over a part leaves no more text. -/
theorem length_le_of_passOver {mark : String} {cause : DelimiterError} {text left : List Char}
    (h : passOver mark cause text = .ok left) : left.length ≤ text.length := by
  unfold passOver at h
  split at h
  next rest hrest =>
    cases h
    exact Text.length_le_of_afterFirst hrest
  · cases h

/-- Passing over a document type declaration leaves no more text. -/
theorem length_le_of_passOverDocumentType {text left : List Char}
    (h : passOverDocumentType text = .ok left) : left.length ≤ text.length := by
  unfold passOverDocumentType at h
  split at h
  · split at h
    next content rest hcut =>
      split at h
      · cases h
      · cases h
        have hlt := length_lt_of_cutBalanced hcut
        simp only [List.length_drop] at hlt
        omega
    · cases h
  · cases h

/-- Passing over a declaration leaves no more text. -/
theorem length_le_of_passOverDeclaration {text left : List Char}
    (h : passOverDeclaration text = .ok left) : left.length ≤ text.length := by
  unfold passOverDeclaration at h
  split at h
  · have := length_le_of_passOver h
    simp only [List.length_cons]
    omega
  · cases h
  · have := length_le_of_passOver h
    simp only [List.length_cons]
    omega
  · cases h
  · exact length_le_of_passOverDocumentType h
  · exact length_le_of_passOverDocumentType h
  · cases h

/-- Passing over an instruction leaves no more text. -/
theorem length_le_of_passOverInstruction {text left : List Char}
    (h : passOverInstruction text = .ok left) : left.length ≤ text.length := by
  unfold passOverInstruction at h
  split at h
  · cases h
  · exact length_le_of_passOver h

/-- A piece of markup leaves no more text. -/
theorem length_le_of_readPiece {text : List Char} {found : Piece × List Char}
    (h : readPiece text = .ok found) : found.2.length ≤ text.length := by
  unfold readPiece at h
  split at h
  next rest =>
    cases hpass : passOverDeclaration rest with
    | error cause => rw [hpass] at h; cases h
    | ok left =>
      rw [hpass] at h
      cases h
      exact Nat.le_succ_of_le (length_le_of_passOverDeclaration hpass)
  next rest =>
    cases hpass : passOverInstruction rest with
    | error cause => rw [hpass] at h; cases h
    | ok left =>
      rw [hpass] at h
      cases h
      exact Nat.le_succ_of_le (length_le_of_passOverInstruction hpass)
  next rest =>
    split at h
    next hcut =>
      cases h
      exact Nat.le_succ_of_le (Nat.le_of_lt (length_lt_of_cutTag hcut))
    · cases h
  · split at h
    next hcut =>
      cases h
      exact Nat.le_of_lt (length_lt_of_cutTag hcut)
    · cases h

/-- The events of a text, and the fault that ends it early, if there is one. -/
structure Reading where
  /-- The element boundaries in order, up to the fault. -/
  events : List Event
  /-- What is wrong where the events end. -/
  fault : Option Error
  deriving DecidableEq, Repr

/-- Puts an event in front of a reading. -/
def Reading.after (event : Event) (reading : Reading) : Reading :=
  { reading with events := event :: reading.events }

/-- Reads on with the names of the open elements, innermost first. -/
def Reading.ofTextFrom (opened : List (List Char)) (text : List Char) : Reading :=
  match _hmark : text.dropWhile (· != '<') with
  | [] => ⟨[], none⟩
  | _ :: rest =>
    match _hpiece : readPiece rest with
    | .error cause => ⟨[], some cause⟩
    | .ok (.silent, left) => ofTextFrom opened left
    | .ok (.empty tag, left) => (ofTextFrom opened left).after (.empty tag)
    | .ok (.opening tag, left) => (ofTextFrom (tag.name :: opened) left).after (.opened tag)
    | .ok (.closing name, left) =>
      match opened with
      | [] => ⟨[], some (.nesting (.unmatchedEnd (String.ofList name)))⟩
      | expected :: outer =>
        if name = expected then (ofTextFrom outer left).after .closed
        else
          ⟨[], some (.nesting (.mismatchedEnd (String.ofList expected) (String.ofList name)))⟩
termination_by text.length
decreasing_by
  all_goals
    have hpiece := length_le_of_readPiece _hpiece
    have hmark := length_dropWhile_le (· != '<') text
    rw [_hmark, List.length_cons] at hmark
    simp only at hpiece
    omega

/-- The text without the byte order mark that may stand before it. -/
def withoutMark : List Char → List Char
  | '\ufeff' :: rest => rest
  | text => text

/-- Reads a whole text. A byte order mark in front of it does not count. -/
def Reading.ofText (text : List Char) : Reading :=
  ofTextFrom [] (withoutMark text)

end Bindery.Markup
