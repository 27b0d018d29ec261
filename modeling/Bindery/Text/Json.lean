import Bindery.Text.Escape

/-!
# JSON text

Strings as JSON writes them, and objects and arrays with one entry a line.
-/

namespace Bindery.Text.Json

/-- The escape that gives a character by four hexadecimal digits. -/
def numericEscape (c : Char) : List Char :=
  let digits := Nat.toDigits 16 c.toNat
  ['\\', 'u'] ++ List.replicate (4 - digits.length) '0' ++ digits

/-- The letter that stands for a character in a string: the common ones, and those for the
backspace and the form feed. -/
def letter? (c : Char) : Option Char :=
  if c = '\x08' then some 'b' else if c = '\x0c' then some 'f' else commonLetter? c

/-- A string. Control characters without a letter are given by their code. -/
def string (text : String) : String :=
  between letter? (fun c => if c.toNat < 0x20 then numericEscape c else [c]) text

/-- Entries between two marks, one a line, indented by `depth` steps. -/
def block (first last : String) (depth : Nat) (entries : List String) : String :=
  let indent n := String.ofList (List.replicate (2 * n) ' ')
  match entries with
  | [] => first ++ last
  | _ =>
    first ++ ",".intercalate (entries.map fun entry => "\n" ++ indent (depth + 1) ++ entry)
      ++ "\n" ++ indent depth ++ last

/-- An array of values in their written form. -/
def array (depth : Nat) (values : List String) : String :=
  block "[" "]" depth values

/-- An object of values in their written form. -/
def object (depth : Nat) (entries : List (String × String)) : String :=
  block "\x7b" "\x7d" depth (entries.map fun entry => string entry.1 ++ ": " ++ entry.2)

end Bindery.Text.Json
