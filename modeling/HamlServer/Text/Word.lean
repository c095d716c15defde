import HamlServer.Text.WordTable

/-!
Word characters.

`isWordChar` is the class that the template patterns call a word character: letters, marks, decimal
digits and connecting punctuation of every script.  `isAsciiWordChar` is the narrower class of
identifier characters under the cursor.
-/

namespace HamlServer.Text

/-- Letters, decimal digits and the underscore of ASCII. -/
def isAsciiWordChar (c : Char) : Bool := c.isAlphanum || c == '_'

/-- Whether a code point lies in one of the runs of a table. -/
def inRanges (ranges : List (Nat × Nat)) (n : Nat) : Bool :=
  ranges.any fun (first, last) => decide (first ≤ n) && decide (n ≤ last)

/-- Letters, marks, decimal digits, connecting punctuation and joiners of every script. -/
def isWordChar (c : Char) : Bool :=
  if c.toNat < 0x80 then isAsciiWordChar c else inRanges wordRanges c.toNat

/-- The characters of a class or id name: word characters and the hyphen. -/
def isNameChar (c : Char) : Bool := isWordChar c || c == '-'

theorem isWordChar_of_ascii {c : Char} (h : c.toNat < 0x80) : isWordChar c = isAsciiWordChar c := by
  simp [isWordChar, h]

end HamlServer.Text
