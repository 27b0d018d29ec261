import Bindery.Number.Digit
import Bindery.Text.Pattern.Rules

/-!
# Atoms of patterns

The parts of a pattern that are not put together from others. No tables are at hand that tell the
letters and digits of all scripts, or their cases, so what would need them cannot stand in a
pattern.
-/

namespace Bindery.Text.Pattern

/-- A part of a pattern that has no parts. -/
inductive Atom where
  /-- A character. -/
  | char (c : Char)
  /-- A character given by two digits, which is a byte where bytes are matched. -/
  | byte (c : Char)
  /-- The digits, the blanks or the characters of words, or all characters but these. -/
  | family (isComplement : Bool)
  /-- Any character of a line. -/
  | any
  /-- An edge of a line or of the text. -/
  | edge
  /-- An edge of a word, or a place that is none. -/
  | wordEdge
  deriving DecidableEq, Repr

/-- The character of an atom. -/
def Atom.char? : Atom → Option Char
  | .char c | .byte c => some c
  | _ => none

/-- Whether an atom can stand in a set. Where bytes are matched, those beyond ASCII are parts of
characters, which must not be torn apart. -/
def Rules.admitsInSet (rules : Rules) : Atom → Bool
  | .char c | .byte c => if rules.isWide then !rules.foldsCase else c.toNat < 0x80
  | .family isComplement => !rules.isWide && !isComplement
  | .any | .edge | .wordEdge => false

/-- Whether an atom can stand outside of sets. There a character is as good as its bytes in a
row. -/
def Rules.admits (rules : Rules) : Atom → Bool
  | .char _ => !(rules.isWide && rules.foldsCase)
  | .any => rules.isWide
  | .edge => true
  | .wordEdge => !rules.isWide
  | atom => rules.admitsInSet atom

/-- A character given by hexadecimal digits. -/
def numbered (rules : Rules) (count : Nat) : Reader Char := do
  let digits ← (List.replicate count ()).mapM fun _ => do
    rules.space
    Reader.satisfying (Number.isDigitOf 16)
  let code := Number.ofDigits 16 digits
  if code.isValidChar then return Char.ofNat code else failure

/-- What stands behind a backslash. A character of ASCII that is no letter or digit stands for
itself. -/
def escaped (rules : Rules) : Reader Atom := do
  match ← Reader.anyChar with
  | 'a' => return .char '\x07'
  | 'f' => return .char '\x0c'
  | 'n' => return .char '\n'
  | 'r' => return .char '\r'
  | 't' => return .char '\t'
  | 'v' => return .char '\x0b'
  | 'x' => return .byte (← numbered rules 2)
  | 'u' => return .char (← numbered rules 4)
  | 'U' => return .char (← numbered rules 8)
  | 'A' | 'z' => return .edge
  | 'b' | 'B' | '<' | '>' => return .wordEdge
  | 'd' | 's' | 'w' => return .family false
  | 'D' | 'S' | 'W' => return .family true
  | c => if c.toNat < 0x80 && !c.isAlphanum then return .char c else failure

end Bindery.Text.Pattern
