import Bindery.Text.Escape
import Bindery.Text.Hidden

/-!
# Quoted text

Text as it is shown inside diagnostics: between double quotes, with the usual escapes, and with a
numeric escape for every character that has no visible form of its own.
-/

namespace Bindery.Text

/-- The escape that gives a character by its code point. -/
def numericEscape (c : Char) : List Char :=
  ['\\', 'u', '\x7b'] ++ Nat.toDigits 16 c.toNat ++ ['\x7d']

/-- The letter that stands for a character in a diagnostic: the common ones, and a zero for the
character of code zero. -/
def letter? (c : Char) : Option Char :=
  if c = '\x00' then some '0' else commonLetter? c

/-- A text between double quotes, with escapes. -/
def quoted (text : String) : String :=
  between letter? (fun c => if isHidden c then numericEscape c else [c]) text

end Bindery.Text
