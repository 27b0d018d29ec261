import Bindery.Proofs.Document.Element
import Bindery.Markup.Event

/-!
# Documents as they are written

A list of element trees can be written in many ways: with values in quotes of either sort, elements
without content in one tag or in two, and any text between the tags. A `Spelling` is a list of trees
together with these choices, and a `Document` is a spelling inside a document element. Names, the
text between tags and lists of attributes can only be built as the format allows them.
-/

namespace Bindery.Markup

/-- A letter or a low line. -/
def startsName (c : Char) : Bool :=
  c.isAlpha || c == '_'

/-- A letter, a digit, a low line, a hyphen or a full stop. -/
def continuesName (c : Char) : Bool :=
  c.isAlphanum || c == '_' || c == '-' || c == '.'

/-- The name of an element or of an attribute. -/
structure Name where
  /-- The first character. -/
  first : Char
  /-- The other characters. -/
  others : List Char
  /-- The first character is one that names start with. -/
  hfirst : startsName first = true
  /-- The others are ones that names go on with. -/
  hothers : ∀ c ∈ others, continuesName c = true

/-- The characters of a name. -/
def Name.chars (name : Name) : List Char :=
  name.first :: name.others

/-- A text that is a name. -/
def isName : List Char → Bool
  | [] => false
  | first :: others => startsName first && others.all continuesName

/-- The name that a text is. A low line stands in for a text that is no name. -/
def Name.ofString (text : String) : Name :=
  match text.toList with
  | [] => ⟨'_', [], rfl, fun _ hc => absurd hc List.not_mem_nil⟩
  | first :: others =>
    if h : startsName first = true ∧ others.all continuesName = true then
      ⟨first, others, h.1, List.all_eq_true.mp h.2⟩
    else ⟨'_', [], rfl, fun _ hc => absurd hc List.not_mem_nil⟩

/-- A name as a string. -/
def Name.text (name : Name) : String :=
  String.ofList name.chars

/-- Text between tags. -/
structure Gap where
  /-- Its characters. -/
  chars : List Char
  /-- No tag begins in it. -/
  hchars : '<' ∉ chars

/-- What a value is put in. -/
inductive Quote where
  /-- An apostrophe on either side. -/
  | single
  /-- A quotation mark on either side. -/
  | double
  deriving DecidableEq, Repr

/-- The character on either side of a value. -/
def Quote.mark : Quote → Char
  | .single => '\''
  | .double => '"'

/-- The character on either side of a value is one of two. -/
theorem Quote.mark_eq (quote : Quote) : quote.mark = '"' ∨ quote.mark = '\'' := by
  cases quote
  · exact .inr rfl
  · exact .inl rfl

/-- The names that characters are written by. -/
def characterNames : List String :=
  ["lt", "gt", "amp", "apos", "quot"]

/-- The name that a character is written by, if it has one. -/
def characterName? : Char → Option String
  | '<' => some "lt"
  | '>' => some "gt"
  | '&' => some "amp"
  | '\'' => some "apos"
  | '"' => some "quot"
  | _ => none

/-- What stands for a character inside a value. -/
def escapeCharacter (c : Char) : List Char :=
  match characterName? c with
  | some name => '&' :: (name.toList ++ [';'])
  | none => [c]

/-- What stands for a value between two quotes. -/
def escape (value : List Char) : List Char :=
  value.flatMap escapeCharacter

/-- An attribute with the quotes that its value is put in. -/
structure Attribute where
  /-- Its key. -/
  key : Name
  /-- Its value. -/
  value : String
  /-- What the value is put in. -/
  quote : Quote

/-- What follows the key of an attribute. -/
def Attribute.assigned (entry : Attribute) : List Char :=
  '=' :: entry.quote.mark :: (escape entry.value.toList ++ [entry.quote.mark])

/-- An attribute behind the space that separates it from what stands before it. -/
def Attribute.chars (entry : Attribute) : List Char :=
  ' ' :: (entry.key.chars ++ entry.assigned)

/-- What an attribute says. -/
def Attribute.pair (entry : Attribute) : String × String :=
  (entry.key.text, entry.value)

/-- The attributes of one element. -/
structure Attributes where
  /-- The attributes in order. -/
  list : List Attribute
  /-- Their keys are distinct. -/
  hkeys : (list.map (·.key.chars)).Nodup

/-- Attributes as they are written. -/
def Attributes.chars (attributes : Attributes) : List Char :=
  attributes.list.flatMap Attribute.chars

/-- What attributes say. -/
def Attributes.pairs (attributes : Attributes) : List (String × String) :=
  attributes.list.map Attribute.pair

/-- The name and the attributes of an element, as they stand in its first tag. -/
def tagOf (name : Name) (attributes : Attributes) : Tag :=
  ⟨name.chars ++ attributes.chars⟩

/-- A way to write a list of trees. Each constructor says how the first tree is written, behind the
text before it. -/
inductive Spelling where
  /-- No tree, only text. -/
  | text (gap : Gap)
  /-- An element without content, in one tag. -/
  | single (before : Gap) (name : Name) (attributes : Attributes) (rest : Spelling)
  /-- An element between two tags. -/
  | paired (before : Gap) (name : Name) (attributes : Attributes) (content rest : Spelling)

namespace Spelling

/-- The trees that are written. -/
def elements : Spelling → List Element
  | text _ => []
  | single _ name attributes rest => .node name.text attributes.pairs [] :: rest.elements
  | paired _ name attributes content rest =>
    .node name.text attributes.pairs content.elements :: rest.elements

/-- The text that they are written as. -/
def chars : Spelling → List Char
  | text gap => gap.chars
  | single before name attributes rest =>
    before.chars ++ '<' :: ((tagOf name attributes).content ++ '/' :: '>' :: rest.chars)
  | paired before name attributes content rest =>
    before.chars ++ '<' :: ((tagOf name attributes).content ++ '>' ::
      (content.chars ++ '<' :: '/' :: (name.chars ++ '>' :: rest.chars)))

/-- The element boundaries in the text. -/
def events : Spelling → List Event
  | text _ => []
  | single _ name attributes rest => .empty (tagOf name attributes) :: rest.events
  | paired _ name attributes content rest =>
    .opened (tagOf name attributes) :: (content.events ++ .closed :: rest.events)

end Spelling

/-- A way to write a document: a document element with text on either side of it. -/
inductive Document where
  /-- A document element without content, in one tag. -/
  | single (before : Gap) (name : Name) (attributes : Attributes) (after : Gap)
  /-- A document element between two tags. -/
  | paired (before : Gap) (name : Name) (attributes : Attributes) (content : Spelling)
    (after : Gap)

namespace Document

/-- A document is the spelling of its document element. -/
def spelling : Document → Spelling
  | single before name attributes after => .single before name attributes (.text after)
  | paired before name attributes content after =>
    .paired before name attributes content (.text after)

/-- The trees below the document element. -/
def elements : Document → List Element
  | single _ _ _ _ => []
  | paired _ _ _ content _ => content.elements

/-- A document of elements without content, with no text between the tags. -/
def flat (elements : List (Name × Attributes)) : Document :=
  have gap : Gap := ⟨[], List.not_mem_nil⟩
  .paired gap (.ofString "document") ⟨[], .nil⟩
    (elements.foldr (fun entry => .single gap entry.1 entry.2) (.text gap)) gap

/-- An element without content that declares something. -/
def declaration (element id name context : String) : Name × Attributes :=
  have hkeys : ["id".toList, "name".toList, "context".toList].Nodup := by decide
  (.ofString element, ⟨[⟨.ofString "id", id, .double⟩, ⟨.ofString "name", name, .double⟩,
    ⟨.ofString "context", context, .single⟩], hkeys⟩)

/-- The text of a document. -/
def text (document : Document) : String :=
  String.ofList document.spelling.chars

end Document

end Bindery.Markup
