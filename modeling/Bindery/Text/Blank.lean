/-!
# Blank characters

The characters with the Unicode property `White_Space`, and the three cuts that lists of words and
trimmed settings need: at blanks, at a single separator, and at `::`.
-/

namespace Bindery.Text

/-- The code points with the property `White_Space`, as inclusive ranges in increasing order. -/
def blankRanges : List (Nat × Nat) :=
  [(0x09, 0x0D), (0x20, 0x20), (0x85, 0x85), (0xA0, 0xA0), (0x1680, 0x1680), (0x2000, 0x200A),
    (0x2028, 0x2029), (0x202F, 0x202F), (0x205F, 0x205F), (0x3000, 0x3000)]

/-- A character with its code point in one of the inclusive ranges. -/
def inRanges (ranges : List (Nat × Nat)) (c : Char) : Bool :=
  ranges.any fun range => range.1 ≤ c.toNat && c.toNat ≤ range.2

/-- A character with the Unicode property `White_Space`. -/
def isBlank (c : Char) : Bool :=
  inRanges blankRanges c

/-- The fields between the characters that satisfy `separates`: always one more field than there
are such characters, and no field is dropped for being empty. -/
def fields (separates : Char → Bool) : List Char → List (List Char)
  | [] => [[]]
  | c :: rest =>
    if separates c then [] :: fields separates rest
    else (fields separates rest).modifyHead (c :: ·)

/-- The maximal runs of characters that are not blank. -/
def words (text : List Char) : List (List Char) :=
  (fields isBlank text).filter (!·.isEmpty)

/-- The segments between occurrences of `::`, found from the left without overlap. -/
def segments : List Char → List (List Char)
  | [] => [[]]
  | ':' :: ':' :: rest => [] :: segments rest
  | c :: rest => (segments rest).modifyHead (c :: ·)

/-- What stands after the last `mark`, or the whole text if it has none. -/
def afterLast (mark : Char) (text : List Char) : List Char :=
  (fields (· == mark) text).getLastD []

/-- The text without the characters satisfying `p` at its end. -/
def trimEnd (p : Char → Bool) (text : List Char) : List Char :=
  (text.reverse.dropWhile p).reverse

/-- The text without the characters satisfying `p` at its two ends. -/
def trimBoth (p : Char → Bool) (text : List Char) : List Char :=
  trimEnd p (text.dropWhile p)

/-- The text without the blanks at its two ends. -/
def trim (text : List Char) : List Char :=
  trimBoth isBlank text

/-- The number of bytes of a text in UTF-8. -/
def byteLength (text : List Char) : Nat :=
  text.foldl (fun length c => length + c.utf8Size) 0

/-- The text after the first occurrence of `mark`, if there is one. -/
def afterFirst (mark : List Char) : List Char → Option (List Char)
  | [] => if mark.isEmpty then some [] else none
  | c :: rest =>
    if mark.isPrefixOf (c :: rest) then some ((c :: rest).drop mark.length)
    else afterFirst mark rest

/-- What follows a mark is no longer than the text it was found in. -/
theorem length_le_of_afterFirst {mark text rest : List Char}
    (h : afterFirst mark text = some rest) : rest.length ≤ text.length := by
  induction text with
  | nil =>
    simp only [afterFirst] at h
    split at h <;> simp_all
  | cons c tail ih =>
    simp only [afterFirst] at h
    split at h
    · cases h
      simp only [List.length_drop, List.length_cons]
      omega
    · have := ih h
      simp only [List.length_cons]
      omega

end Bindery.Text
