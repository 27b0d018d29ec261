import Bindery.Number.Digit
import Bindery.Text.Reader

/-!
# Escapes in quoted texts

Settings files and environment variables know the same escapes in texts between double quotes.
-/

namespace Bindery.Settings

open Bindery.Text (Reader)
open Bindery.Number (isDigitOf)

/-- A character that may stand inside a line: no control character but the tab. -/
def isInLine (c : Char) : Bool :=
  c == '\t' || (' ' ≤ c && c != '\x7f')

/-- The character of a code in hexadecimal digits, if it has one. -/
def codedChar (count : Nat) : Reader (List Char) := do
  let digits ← (List.replicate count ()).mapM fun _ => Reader.satisfying (isDigitOf 16)
  let code := Number.ofDigits 16 digits
  if code.isValidChar then return [Char.ofNat code] else failure

/-- What an escape in a text stands for, behind its backslash. -/
def escape : Reader (List Char) := do
  match ← Reader.anyChar with
  | 'b' => return ['\x08']
  | 't' => return ['\t']
  | 'n' => return ['\n']
  | 'f' => return ['\x0c']
  | 'r' => return ['\r']
  | '"' => return ['"']
  | '\\' => return ['\\']
  | 'u' => codedChar 4
  | 'U' => codedChar 8
  | _ => failure

end Bindery.Settings
