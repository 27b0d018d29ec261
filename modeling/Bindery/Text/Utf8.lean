import Bindery.Text.Blank

/-!
# UTF-8

Reading bytes as text. Bytes that are no text are refused with the place of the first byte that
belongs to no character, and the length of the part that is to blame, unless the bytes just end
inside a character.
-/

namespace Bindery.Text

/-- Where bytes stop being text. -/
inductive Utf8Error where
  /-- From byte `start` on, `length` bytes begin no character. -/
  | invalid (start length : Nat)
  /-- The bytes end inside the character that begins at byte `start`. -/
  | incomplete (start : Nat)
  deriving DecidableEq, Repr

/-- The wording of an error. -/
def Utf8Error.message : Utf8Error → String
  | .invalid start length =>
    "invalid utf-8 sequence of " ++ toString length ++ " bytes from index " ++ toString start
  | .incomplete start => "incomplete utf-8 byte sequence from index " ++ toString start

/-- The number of bytes that are text. -/
def Utf8Error.start : Utf8Error → Nat
  | .invalid start _ => start
  | .incomplete start => start

/-- How a character goes on after its first byte: how many bytes follow, the least and the greatest
value of the first of them, and what the first byte contributes to the code point. -/
structure Lead where
  /-- The number of bytes that follow. -/
  following : Nat
  /-- The least value of the second byte. -/
  low : Nat
  /-- The greatest value of the second byte. -/
  high : Nat
  /-- The bits of the first byte that belong to the code point. -/
  bits : Nat
  deriving DecidableEq, Repr

/-- What a first byte announces. Only the shortest form of each code point counts, and surrogates
have none. -/
def lead? (byte : Nat) : Option Lead :=
  if byte < 0x80 then some ⟨0, 0, 0, byte⟩
  else if byte < 0xC2 then none
  else if byte < 0xE0 then some ⟨1, 0x80, 0xBF, byte - 0xC0⟩
  else if byte = 0xE0 then some ⟨2, 0xA0, 0xBF, 0⟩
  else if byte = 0xED then some ⟨2, 0x80, 0x9F, 0xD⟩
  else if byte < 0xF0 then some ⟨2, 0x80, 0xBF, byte - 0xE0⟩
  else if byte = 0xF0 then some ⟨3, 0x90, 0xBF, 0⟩
  else if byte < 0xF4 then some ⟨3, 0x80, 0xBF, byte - 0xF0⟩
  else if byte = 0xF4 then some ⟨3, 0x80, 0x8F, 4⟩
  else none

/-- Takes `count` more bytes into a code point. The next byte has to lie between `low` and `high`,
those after it between `0x80` and `0xBF`. If one does not, the answer is how many were taken, or
nothing if the bytes end. -/
def follow (taken count low high code : Nat) (bytes : List UInt8) :
    Except (Option Nat) (Nat × List UInt8) :=
  match count, bytes with
  | 0, bytes => .ok (code, bytes)
  | _ + 1, [] => .error none
  | count + 1, byte :: rest =>
    if low ≤ byte.toNat ∧ byte.toNat ≤ high then
      follow (taken + 1) count 0x80 0xBF (code * 64 + (byte.toNat - 0x80)) rest
    else .error (some taken)

/-- Following bytes are taken from the front. -/
theorem length_le_of_follow {taken count low high code : Nat} {bytes : List UInt8}
    {found : Nat × List UInt8} (h : follow taken count low high code bytes = .ok found) :
    found.2.length ≤ bytes.length := by
  induction count generalizing taken low high code bytes with
  | zero =>
    simp only [follow] at h
    cases h
    exact Nat.le_refl _
  | succ count ih =>
    cases bytes with
    | nil => cases h
    | cons byte rest =>
      unfold follow at h
      split at h
      · exact Nat.le_succ_of_le (ih h)
      · cases h

/-- Reads bytes as text, of which `start` bytes are read already. -/
def decodeFrom (start : Nat) (bytes : List UInt8) : Except Utf8Error (List Char) :=
  match bytes with
  | [] => .ok []
  | byte :: rest =>
    match lead? byte.toNat with
    | none => .error (.invalid start 1)
    | some lead =>
      match _h : follow 1 lead.following lead.low lead.high lead.bits rest with
      | .error none => .error (.incomplete start)
      | .error (some taken) => .error (.invalid start taken)
      | .ok (code, left) => do
        return Char.ofNat code :: (← decodeFrom (start + 1 + lead.following) left)
termination_by bytes.length
decreasing_by exact Nat.lt_succ_of_le (length_le_of_follow _h)

/-- Reads bytes as text. -/
def decode (bytes : List UInt8) : Except Utf8Error String :=
  (decodeFrom 0 bytes).map String.ofList

/-- The text that stands before the first byte that belongs to no character. -/
def decodeBefore (error : Utf8Error) (bytes : List UInt8) : List Char :=
  match decodeFrom 0 (bytes.take error.start) with
  | .ok text => text
  | .error _ => []

/-- The text behind the given number of bytes, unless they end inside a character. -/
def dropBytes? : Nat → List Char → Option (List Char)
  | 0, text => some text
  | _ + 1, [] => none
  | count + 1, c :: rest =>
    if c.utf8Size ≤ count + 1 then dropBytes? (count + 1 - c.utf8Size) rest else none
termination_by _ text => text

/-- The text that the given number of bytes in front make up, unless they end inside a character. -/
def takeBytes? : Nat → List Char → Option (List Char)
  | 0, _ => some []
  | _ + 1, [] => none
  | count + 1, c :: rest =>
    if c.utf8Size ≤ count + 1 then (takeBytes? (count + 1 - c.utf8Size) rest).map (c :: ·) else none
termination_by _ text => text

/-- The bytes of a text. -/
def encode (text : String) : List UInt8 :=
  text.toUTF8.toList

end Bindery.Text
