import HamlServer.DomainName.CompositionTable
import HamlServer.DomainName.Run

/-!
The composed form of a text.

A letter and the marks behind it can be written in more than one way.  In the composed form the
marks stand in the order of their classes, and what can be written as one character is.  The
syllables of Korean are composed of their letters by calculation.

* `joinSyllable?_of_splitSyllable?`: the parts of a syllable make it again.
* `insertMark_perm`: ordering a mark loses nothing.
-/

namespace HamlServer.DomainName

/-- A character that is made of two. -/
structure Pair where
  composed : Char
  first : Char
  second : Char
  deriving DecidableEq

/-- Reads a pair: the composed character, a sign, and the two with a point between them. -/
def Pair.ofWord? (s : List Char) : Option Pair :=
  match s.splitOn '>' with
  | [composed, parts] =>
    match (parts.splitOn '.').map codePoint with
    | [a, b] => some ⟨Char.ofNat (codePoint composed), Char.ofNat a, Char.ofNat b⟩
    | _ => none
  | _ => none

/-- The characters that are made of two. -/
def pairs : List Pair := (tableWords pairText).filterMap Pair.ofWord?

/-! ## Syllables -/

/-- The code point of the first syllable of Korean, which lie in the order of their letters. -/
def syllableBase : Nat := 0xAC00

/-- The code points and numbers of the leading consonants, the vowels and the trailing consonants;
the first of the trailing ones stands for none. -/
def leadBase : Nat := 0x1100

@[inherit_doc leadBase] def leadCount : Nat := 19

@[inherit_doc leadBase] def vowelBase : Nat := 0x1161

@[inherit_doc leadBase] def vowelCount : Nat := 21

@[inherit_doc leadBase] def tailBase : Nat := 0x11A7

@[inherit_doc leadBase] def tailCount : Nat := 28

/-- The number of the syllables. -/
def syllableCount : Nat := leadCount * vowelCount * tailCount

/-- The two parts of a syllable: its open syllable and its trailing consonant, or its consonant and
its vowel. -/
def splitSyllable? (n : Nat) : Option (Nat × Nat) :=
  if syllableBase ≤ n ∧ n < syllableBase + syllableCount then
    let i := n - syllableBase
    if i % tailCount = 0 then
      some (leadBase + i / (vowelCount * tailCount), vowelBase + i / tailCount % vowelCount)
    else some (n - i % tailCount, tailBase + i % tailCount)
  else none

/-- The syllable that is made of two parts. -/
def joinSyllable? (a b : Nat) : Option Nat :=
  if leadBase ≤ a ∧ a < leadBase + leadCount ∧ vowelBase ≤ b ∧ b < vowelBase + vowelCount then
    some (syllableBase + ((a - leadBase) * vowelCount + (b - vowelBase)) * tailCount)
  else if syllableBase ≤ a ∧ a < syllableBase + syllableCount ∧
      (a - syllableBase) % tailCount = 0 ∧ tailBase < b ∧ b < tailBase + tailCount then
    some (a + (b - tailBase))
  else none

theorem joinSyllable?_of_splitSyllable? {n a b : Nat} (h : splitSyllable? n = some (a, b)) :
    joinSyllable? a b = some n := by
  unfold splitSyllable? at h
  unfold joinSyllable?
  unfold syllableCount syllableBase leadBase leadCount vowelBase vowelCount tailBase tailCount at *
  split at h
  · dsimp only at h
    split at h
    · obtain ⟨rfl, rfl⟩ := Prod.mk.inj (Option.some.inj h)
      rw [if_pos (by omega)]
      rw [Option.some.injEq]
      omega
    · obtain ⟨rfl, rfl⟩ := Prod.mk.inj (Option.some.inj h)
      rw [if_neg (by omega), if_pos (by omega)]
      rw [Option.some.injEq]
      omega
  · contradiction

/-! ## Marks -/

/-- The runs of the marks of each class other than zero. -/
def markClasses : List (Nat × List Run) := markClassText.map fun (k, lines) => (k, Run.table lines)

/-- The class of a mark; other characters have class zero. -/
def markClass (c : Char) : Nat :=
  if c.toNat < 0x80 then 0
  else ((markClasses.find? fun (_, runs) => inRuns runs c).map (·.1)).getD 0

/-- The two characters that a character is made of. -/
def split? (c : Char) : Option (Char × Char) :=
  if c.toNat < 0x80 then none
  else match splitSyllable? c.toNat with
    | some (a, b) => some (Char.ofNat a, Char.ofNat b)
    | none => (pairs.find? (·.composed == c)).map fun p => (p.first, p.second)

/-- The character that is made of two. -/
def join? (a b : Char) : Option Char :=
  if b.toNat < 0x80 then none
  else match joinSyllable? a.toNat b.toNat with
    | some n => some (Char.ofNat n)
    | none => (pairs.find? fun p => p.first == a && p.second == b).map (·.composed)

/-- The number of times that a character can be split. -/
def maxSplits : Nat := 3

/-- The characters that a character is made of, split at most so often. -/
def splitFully : Nat → Char → List Char
  | 0, c => [c]
  | n + 1, c =>
    match split? c with
    | some (a, b) => splitFully n a ++ [b]
    | none => [c]

/-- Puts a character in front of a text, behind the marks of lower classes there. -/
def insertMark (c : Char) : List Char → List Char
  | d :: r =>
    if 0 < markClass d ∧ markClass d < markClass c then d :: insertMark c r else c :: d :: r
  | [] => [c]

theorem insertMark_perm (c : Char) (s : List Char) : (insertMark c s).Perm (c :: s) := by
  induction s with
  | nil => exact .refl _
  | cons d r ih =>
    unfold insertMark
    split
    · exact (ih.cons d).trans (.swap c d r)
    · exact .refl _

/-- Joins what can be joined.  `marks` are those behind the character `base` that are kept, the last
one first; a mark is joined with `base` across marks of lower classes alone. -/
def joinFrom (base : Char) (marks : List Char) : List Char → List Char
  | [] => base :: marks.reverse
  | c :: r =>
    let isNext := match marks with
      | [] => true
      | m :: _ => markClass m < markClass c
    match if isNext then join? base c else none with
    | some d => joinFrom d marks r
    | none =>
      if markClass c = 0 then base :: (marks.reverse ++ joinFrom c [] r)
      else joinFrom base (c :: marks) r

/-- The composed form of a text. -/
def compose (s : List Char) : List Char :=
  match (s.flatMap (splitFully maxSplits)).foldr insertMark [] with
  | [] => []
  | c :: r => joinFrom c [] r

end HamlServer.DomainName
