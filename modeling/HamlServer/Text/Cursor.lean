import HamlServer.Text.Position
import HamlServer.Text.Utf8

/-!
The word under the cursor.

A line is searched octet by octet: the characters of a word are ASCII, and their octets stand in no
other character.  The search starts at the octet right of the cursor or else at the one left of it,
and goes both ways as far as the octets are those of word characters.
-/

namespace HamlServer.Text

/-- Letters, decimal digits and the underscore of ASCII, as octets. -/
def isWordOctet (b : UInt8) : Bool :=
  (48 ≤ b && b ≤ 57) || (65 ≤ b && b ≤ 90) || (97 ≤ b && b ≤ 122) || b == 95

/-- Whether there is an octet of a word character at an index. -/
def isWordAt (octets : Bytes) (i : Nat) : Bool := octets[i]?.any isWordOctet

/-- The octet index of a column. -/
def octetIndex : Nat → List Char → Nat
  | _, [] => 0
  | n, c :: r => if unitSize c ≤ n then c.utf8Size + octetIndex (n - unitSize c) r else 0

/-- The octet that the search starts from: the one at an index, or else the one in front of it. -/
def anchor? (octets : Bytes) (i : Nat) : Option Nat :=
  if isWordAt octets i then some i
  else if i ≠ 0 ∧ isWordAt octets (i - 1) then some (i - 1)
  else none

/-- The first index of the word octets that end in front of an index. -/
def runStart (octets : Bytes) (i : Nat) : Nat :=
  i - ((octets.take i).reverse.takeWhile isWordOctet).length

/-- The index behind the word octets that start at an index. -/
def runStop (octets : Bytes) (i : Nat) : Nat :=
  i + ((octets.drop i).takeWhile isWordOctet).length

/-- The octet indices between which the word stands that touches a column. -/
def wordSpan? (line : List Char) (column : Nat) : Option (Nat × Nat) :=
  let octets := Utf8.encode (String.ofList line)
  (anchor? octets (octetIndex column line)).map fun i =>
    (runStart octets i, runStop octets (i + 1))

/-- The text in front of an octet index and behind it; none if the index lies inside a character or
behind the end. -/
def cutOctets? : Nat → List Char → Option (List Char × List Char)
  | 0, s => some ([], s)
  | _ + 1, [] => none
  | n + 1, c :: r =>
    if c.utf8Size ≤ n + 1 then
      (cutOctets? (n + 1 - c.utf8Size) r).map fun (front, back) => (c :: front, back)
    else none

/-- The text between two octet indices, neither of which may lie inside a character. -/
def sliceOctets? (start stop : Nat) (s : List Char) : Option (List Char) := do
  let (_, back) ← cutOctets? start s
  if stop < start then none
  let (word, _) ← cutOctets? (stop - start) back
  return word

/-- The run of identifier characters that touches a position, if there is one.  A column past the
end of the line touches nothing. -/
def wordAt (content : List Char) (p : Position) : Option (List Char) := do
  let line ← lineAt content p.line
  let column := p.character.toNat
  if units line < column then none
  let (start, stop) ← wordSpan? line column
  sliceOctets? start stop line

end HamlServer.Text
