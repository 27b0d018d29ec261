/-!
# What is wrong with a marked-up text

The causes for which a text of elements and attributes is refused, each with its wording. Where a
cause has a cause of its own, `causes` lists the wordings from the outermost to the innermost.
-/

namespace Bindery.Markup

/-- A character number that cannot be read. -/
inductive NumberError where
  /-- There is no digit. -/
  | empty
  /-- Some character is no digit of the base. -/
  | invalidDigit
  /-- The number does not fit in 32 bits. -/
  | tooLarge
  deriving DecidableEq, Repr

/-- The wording of a number error. -/
def NumberError.message : NumberError → String
  | .empty => "cannot parse integer from empty string"
  | .invalidDigit => "invalid digit found in string"
  | .tooLarge => "number too large to fit in target type"

/-- A reference to a character by its number that names no character. -/
inductive ReferenceError where
  /-- The number begins with a sign. -/
  | signed
  /-- The number cannot be read. -/
  | number (cause : NumberError)
  /-- The number is zero. -/
  | zero
  /-- The number is that of a surrogate or beyond the last character. -/
  | noCharacter (code : Nat)
  deriving DecidableEq, Repr

/-- The wording of a reference error. -/
def ReferenceError.message : ReferenceError → String
  | .signed => "unexpected number sign"
  | .number cause => cause.message
  | .zero => "0x0 character is not permitted in XML"
  | .noCharacter code => "`" ++ toString code ++ "` is not a valid codepoint"

/-- The wordings below that of the reference error itself. -/
def ReferenceError.causes : ReferenceError → List String
  | .number cause => [cause.message]
  | _ => []

/-- An escape in a value that stands for no character. Positions are byte offsets in the value. -/
inductive EscapeError where
  /-- No `;` ends the escape that begins at `start`; the value is `length` bytes long. -/
  | unterminated (start length : Nat)
  /-- The name from `start` to `stop` is none of the five known ones. -/
  | unknownName (start stop : Nat) (name : String)
  /-- The character number names no character. -/
  | badReference (cause : ReferenceError)
  deriving DecidableEq, Repr

/-- A range of byte offsets. -/
def range (start stop : Nat) : String :=
  toString start ++ ".." ++ toString stop

/-- The wording of an escape error. -/
def EscapeError.message : EscapeError → String
  | .unterminated start length =>
    "Error while escaping character at range " ++ range start length
      ++ ": Cannot find ';' after '&'"
  | .unknownName start stop name =>
    "at " ++ range start stop ++ ": unrecognized entity `" ++ name ++ "`"
  | .badReference cause => "invalid character reference: " ++ cause.message

/-- The wordings below that of the escape error itself. -/
def EscapeError.causes : EscapeError → List String
  | .badReference cause => cause.message :: cause.causes
  | _ => []

/-- A fault in the attributes of a tag. Positions are byte offsets in the tag's content. -/
inductive AttributeError where
  /-- The key is not followed by `=`. -/
  | noEquals (position : Nat)
  /-- The key at `position` stands already at `earlier`. -/
  | duplicate (position earlier : Nat)
  /-- The value is not quoted. -/
  | unquoted (position : Nat)
  /-- There is no value. -/
  | noValue (position : Nat)
  /-- The value's closing quote is missing. -/
  | noClosingQuote (position : Nat) (quote : Char)
  deriving DecidableEq, Repr

/-- The wording of an attribute error. -/
def AttributeError.message : AttributeError → String
  | .noEquals position =>
    located position "attribute key must be directly followed by `=` or space"
  | .duplicate position earlier =>
    located position
      ("duplicated attribute, previous declaration at position " ++ toString earlier)
  | .unquoted position =>
    located position "attribute value must be enclosed in `\"` or `'`"
  | .noValue position => located position "`=` must be followed by an attribute value"
  | .noClosingQuote position quote =>
    located position ("missing closing quote `" ++ quote.toString ++ "` in attribute value")
where
  /-- A wording with its position in front. -/
  located (position : Nat) (wording : String) : String :=
    "position " ++ toString position ++ ": " ++ wording

/-- A piece of markup that cannot be delimited. -/
inductive DelimiterError where
  /-- A tag without its `>`. -/
  | tag
  /-- A `<!` that begins nothing known. -/
  | declaration
  /-- A comment without its end. -/
  | comment
  /-- A character data section without its end. -/
  | characterData
  /-- A document type declaration without its end. -/
  | documentType
  /-- A processing instruction without its end. -/
  | instruction
  deriving DecidableEq, Repr

/-- The wording of a delimiter error. -/
def DelimiterError.message : DelimiterError → String
  | .tag => "tag not closed: `>` not found before end of input"
  | .declaration => "unknown or missed symbol in markup"
  | .comment => "comment not closed: `-->` not found before end of input"
  | .characterData => "CDATA not closed: `]]>` not found before end of input"
  | .documentType => "DOCTYPE not closed: `>` not found before end of input"
  | .instruction =>
    "processing instruction or xml declaration not closed: `?>` not found before end of input"

/-- Well delimited markup that may not stand where it stands. -/
inductive NestingError where
  /-- A document type declaration without a name. -/
  | namelessDocumentType
  /-- The innermost open element is another one. -/
  | mismatchedEnd (expected found : String)
  /-- No element is open. -/
  | unmatchedEnd (found : String)
  deriving DecidableEq, Repr

/-- The wording of a nesting error. -/
def NestingError.message : NestingError → String
  | .namelessDocumentType =>
    "`<!DOCTYPE>` declaration does not contain a name of a document type"
  | .mismatchedEnd expected found =>
    "expected `</" ++ expected ++ ">`, but `</" ++ found ++ ">` was found"
  | .unmatchedEnd found => "close tag `</" ++ found ++ ">` does not match any open tag"

/-- Why a marked-up text is refused. -/
inductive Error where
  /-- A piece of markup cannot be delimited. -/
  | delimiter (cause : DelimiterError)
  /-- A piece of markup may not stand where it stands. -/
  | nesting (cause : NestingError)
  /-- The attributes of a tag cannot be read. -/
  | attribute (cause : AttributeError)
  /-- The value of an attribute cannot be unescaped. -/
  | escape (cause : EscapeError)
  deriving DecidableEq, Repr

/-- The wording of a refusal. -/
def Error.message : Error → String
  | .delimiter cause => "syntax error: " ++ cause.message
  | .nesting cause => "ill-formed document: " ++ cause.message
  | .attribute cause => "error while parsing attribute: " ++ cause.message
  | .escape cause => cause.message

/-- The wordings below that of the refusal itself. -/
def Error.causes : Error → List String
  | .delimiter cause => [cause.message]
  | .nesting cause => [cause.message]
  | .attribute cause => [cause.message]
  | .escape cause => cause.message :: cause.causes

end Bindery.Markup
