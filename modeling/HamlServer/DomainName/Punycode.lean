import HamlServer.Decimal.Power

/-!
Punycode, which writes a text in letters, digits and hyphens.

The characters of ASCII come first.  Behind the last hyphen, each other character is given by a
number that says how many steps lead to it from the one before, when code points are tried in
increasing order and for each of them all places in the text.  The digits of a number are written
the lowest first; a digit below the threshold of its place ends the number.

* `threshold_pos`: every place has a digit that ends a number.
* `threshold_le`: every place has a digit that does not.
-/

namespace HamlServer.DomainName.Punycode

/-- The value of a digit: the letters in their order, then the digits. -/
def digit? (c : Char) : Option Nat :=
  if 'a' ≤ c ∧ c ≤ 'z' then some (c.toNat - 97)
  else if '0' ≤ c ∧ c ≤ '9' then some (c.toNat - 48 + 26)
  else none

/-- The number of digits. -/
def base : Nat := 36

/-- The threshold of a place, which grows by the base from one place to the next. -/
def threshold (place bias : Nat) : Nat := min 26 (max 1 (place - bias))

theorem threshold_pos (place bias : Nat) : 0 < threshold place bias := by
  unfold threshold
  omega

theorem threshold_le (place bias : Nat) : threshold place bias ≤ 26 := by
  unfold threshold
  omega

/-- Scales a number down until it is small, and counts the places that this takes. -/
def scale (delta places : Nat) : Nat × Nat :=
  if 455 < delta then scale (delta / 35) (places + base) else (delta, places)
termination_by delta
decreasing_by omega

/-- The bias for the next number, from the number read and the length of the text with its
character. -/
def adapt (delta length : Nat) (isFirst : Bool) : Nat :=
  let delta := if isFirst then delta / 700 else delta / 2
  let (delta, places) := scale (delta + delta / length) 0
  places + base * delta / (delta + 38)

/-- A text that is being read: what is known of it, the last character's code point, the steps taken
from it, and of the number that is being read the steps before it, the place and its weight. -/
structure Reading where
  text : List Char
  code : Nat := 0x80
  bias : Nat := 72
  steps : Nat := 0
  before : Nat := 0
  place : Nat := base
  weight : Nat := 1

namespace Reading

/-- Whether a code point is that of a character. -/
def isCharacter (n : Nat) : Bool := decide n.isValidChar

/-- Puts in the character that a number leads to. -/
def insert? (r : Reading) : Option Reading :=
  let length := r.text.length + 1
  let code := r.code + r.steps / length
  let position := r.steps % length
  if isCharacter code then
    some {
      text := r.text.insertIdx position (Char.ofNat code)
      code
      bias := adapt (r.steps - r.before) length (r.before == 0)
      steps := position + 1
      before := position + 1 }
  else none

/-- Reads a digit.  Numbers stay below `2 ^ 32`. -/
def step? (r : Reading) (c : Char) : Option Reading := do
  let d ← digit? c
  let r := { r with steps := r.steps + d * r.weight }
  if twoPow 32 ≤ r.steps then none
  let t := threshold r.place r.bias
  if d < t then r.insert?
  else
    let r := { r with place := r.place + base, weight := r.weight * (base - t) }
    if twoPow 32 ≤ r.weight then none else some r

end Reading

/-- The text behind the last hyphen, and what stands in front of it; a hyphen at the start is no
such hyphen. -/
def splitAtHyphen (s : List Char) : List Char × List Char :=
  let behind := (s.reverse.takeWhile (· != '-')).reverse
  match (s.reverse.dropWhile (· != '-')).reverse.dropLast with
  | [] => ([], s)
  | front => (front, behind)

/-- The text that letters, digits and hyphens spell. -/
def decode? (s : List Char) : Option (List Char) := do
  let (front, behind) := splitAtHyphen s
  let r ← behind.foldlM Reading.step? { text := front }
  if r.place = base then some r.text else none

end HamlServer.DomainName.Punycode
