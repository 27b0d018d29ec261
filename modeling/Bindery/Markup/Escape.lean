import Bindery.Markup.Error
import Bindery.Number.Digit
import Bindery.Text.Blank

/-!
# Escapes in attribute values

Inside a value, `&name;` stands for one of five characters and `&#number;` for the character of
that number. `unescape` reads them; everything else stands for itself.
-/

namespace Bindery.Markup

open Bindery.Text (byteLength)

/-- The character that a name stands for. -/
def namedCharacter? (name : List Char) : Option Char :=
  if name = "lt".toList then some '<'
  else if name = "gt".toList then some '>'
  else if name = "amp".toList then some '&'
  else if name = "apos".toList then some '\''
  else if name = "quot".toList then some '"'
  else none

/-- The first number that does not fit into 32 bits. -/
def numberBound : Nat := 4294967296

/-- One more digit of a 32-bit number. A character that is no digit is found before the number is
found to be too large. -/
def appendDigit (base value : Nat) (c : Char) : Except NumberError Nat :=
  match Number.digitValue? c with
  | some digit =>
    if digit < base then
      if value * base + digit < numberBound then .ok (value * base + digit) else .error .tooLarge
    else .error .invalidDigit
  | none => .error .invalidDigit

/-- A 32-bit number in the given base; the first fault from the left is reported. -/
def readNumber (base : Nat) (digits : List Char) : Except NumberError Nat :=
  if digits.isEmpty then .error .empty else digits.foldlM (appendDigit base) 0

/-- The code of a character reference: decimal, or hexadecimal after an `x`. -/
def readCode (number : List Char) : Except ReferenceError Nat :=
  let (base, digits) := match number with
    | 'x' :: digits => (16, digits)
    | digits => (10, digits)
  match digits with
  | '+' :: _ => .error .signed
  | '-' :: _ => .error .signed
  | _ => (readNumber base digits).mapError .number

/-- The character that a character number stands for. -/
def readReference (number : List Char) : Except ReferenceError Char := do
  let code ← readCode number
  if code = 0 then .error .zero
  else if code.isValidChar then .ok (Char.ofNat code)
  else .error (.noCharacter code)

/-- The character that the text between `&` and `;` stands for; the text begins at byte `start` of
the value. -/
def resolve (start : Nat) (name : List Char) : Except EscapeError Char :=
  match name with
  | '#' :: number => (readReference number).mapError .badReference
  | _ =>
    match namedCharacter? name with
    | some c => .ok c
    | none => .error (.unknownName start (start + byteLength name) (String.ofList name))

/-- Reads the rest of a value of `length` bytes, of which `start` bytes are read already. An escape
ends at the next `;`, and no `&` may stand in between. -/
def unescapeFrom (length start : Nat) (value : List Char) : Except EscapeError (List Char) :=
  match value with
  | [] => .ok []
  | c :: rest =>
    if c = '&' then
      let name := rest.takeWhile fun d => d != '&' && d != ';'
      match _h : rest.dropWhile (fun d => d != '&' && d != ';') with
      | ';' :: next => do
        let meant ← resolve (start + 1) name
        return meant :: (← unescapeFrom length (start + byteLength name + 2) next)
      | _ => .error (.unterminated start length)
    else do
      return c :: (← unescapeFrom length (start + c.utf8Size) rest)
termination_by value.length
decreasing_by
  · have hle := (List.dropWhile_suffix (l := rest) fun d => d != '&' && d != ';').length_le
    rw [_h, List.length_cons] at hle
    rw [List.length_cons]
    omega
  · exact Nat.lt_succ_self rest.length

/-- The value that the text between two quotes stands for. -/
def unescape (value : List Char) : Except EscapeError (List Char) :=
  unescapeFrom (byteLength value) 0 value

end Bindery.Markup
