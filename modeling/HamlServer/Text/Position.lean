import HamlServer.Text.Line

/-!
Positions in a document.

A position is a line and a column, both counted from zero; columns count UTF-16 units.  A column
past the end of a line stands for its end, and one inside a surrogate pair for the place before the
character.

* `takeUnits_append_dropUnits`: a column cuts a line into two parts and loses nothing.
-/

namespace HamlServer

/-- A place in a document: a line and a column in UTF-16 units, both from zero. -/
structure Position where
  line : UInt32
  character : UInt32
  deriving DecidableEq, Repr, Inhabited

namespace Position

/-- Document order: by line, then by column. -/
def before (p q : Position) : Bool :=
  p.line < q.line || (p.line == q.line && p.character < q.character)

end Position

/-- The part of a document between two positions. -/
structure Range where
  start : Position
  stop : Position
  deriving DecidableEq, Repr, Inhabited

namespace Range

/-- The range without width at the start of a line. -/
def lineStart (line : UInt32) : Range := ⟨⟨line, 0⟩, ⟨line, 0⟩⟩

/-- A range is empty when its ends coincide. -/
def isEmpty (r : Range) : Bool := r.start == r.stop

end Range

namespace Text

/-- The number of UTF-16 units of a character. -/
def unitSize (c : Char) : Nat := if c.toNat < 0x10000 then 1 else 2

/-- The number of UTF-16 units of a line. -/
def units : List Char → Nat
  | [] => 0
  | c :: r => unitSize c + units r

/-- The part of a line before a column. -/
def takeUnits : Nat → List Char → List Char
  | _, [] => []
  | n, c :: r => if unitSize c ≤ n then c :: takeUnits (n - unitSize c) r else []

/-- The part of a line from a column on. -/
def dropUnits : Nat → List Char → List Char
  | _, [] => []
  | n, c :: r => if unitSize c ≤ n then dropUnits (n - unitSize c) r else c :: r

theorem takeUnits_append_dropUnits (n : Nat) (line : List Char) :
    takeUnits n line ++ dropUnits n line = line := by
  induction line generalizing n with
  | nil => rfl
  | cons c r ih =>
    by_cases h : unitSize c ≤ n
    · simp [takeUnits, dropUnits, h, ih]
    · simp [takeUnits, dropUnits, h]

/-- A line of a document, without its terminator. -/
def lineAt (content : List Char) (line : UInt32) : Option (List Char) :=
  (docLines content)[line.toNat]?

/-- The text of a position's line up to the position. -/
def linePrefix (content : List Char) (p : Position) : Option (List Char) :=
  (lineAt content p.line).map (takeUnits p.character.toNat)

/-- The lines of a slice: the first from its start column on, the last up to its end column. -/
def sliceLines (r : Range) (ls : List (List Char)) : List (List Char) :=
  let count := r.stop.line.toNat - r.start.line.toNat + 1
  let ls := (ls.drop r.start.line.toNat).take count
  let ls := ls.modify (count - 1) (takeUnits r.stop.character.toNat)
  ls.modify 0 (dropUnits r.start.character.toNat)

/-- The text that a range covers, its lines joined by line feeds; nothing if the range ends before
it starts. -/
def slice (content : List Char) (r : Range) : List Char :=
  if r.stop.before r.start then [] else joinLines (sliceLines r (docLines content))

/-- The range that covers a whole document: up to the end of what follows its last line feed. -/
def fullRange (content : List Char) : Range :=
  let pieces := content.splitOn '\n'
  ⟨⟨0, 0⟩, ⟨UInt32.ofNat (pieces.length - 1), UInt32.ofNat (units (pieces.getLastD []))⟩⟩

end Text

end HamlServer
