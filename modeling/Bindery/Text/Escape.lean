/-!
# Escapes of one letter

Some characters have a letter of their own that stands for them behind a backslash. A kind of
quoted text gives its letters; what it writes for the other characters is its own matter.
-/

namespace Bindery.Text

/-- The letters that every kind of quoted text knows: for both marks of the quotation itself, and
for the ends of a line and the tab. -/
def commonLetter? : Char → Option Char
  | '"' => some '"'
  | '\\' => some '\\'
  | '\n' => some 'n'
  | '\r' => some 'r'
  | '\t' => some 't'
  | _ => none

/-- A text between double quotes. A character that has a letter is a backslash and its letter,
every other one is written by `other`. -/
def between (letter? : Char → Option Char) (other : Char → List Char) (text : String) : String :=
  let written c :=
    match letter? c with
    | some letter => ['\\', letter]
    | none => other c
  String.ofList ('"' :: text.toList.flatMap written ++ ['"'])

end Bindery.Text
