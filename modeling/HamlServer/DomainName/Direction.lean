import HamlServer.DomainName.DirectionTable
import HamlServer.DomainName.Run

/-!
The direction of writing in domain names.

When a domain name holds a character that is written from right to left, every part of it has to
keep its order wherever it is shown: it starts with a letter, all of it that has a direction has the
same one, and it ends with a letter or a digit, apart from marks.
-/

namespace HamlServer.DomainName

/-- What a character does to the direction of a text. -/
inductive Direction where
  | leftToRight
  | rightToLeft
  | europeanNumber
  | arabicNumber
  | neutral
  | mark
  deriving DecidableEq, Repr

/-- The runs of the characters that are written from right to left. -/
def rightToLeft : List Run := Run.table rightToLeftText

/-- The runs of the digits and signs of Arabic numbers. -/
def arabicNumbers : List Run := Run.table arabicNumberText

/-- The runs of the digits of European numbers outside ASCII. -/
def europeanNumbers : List Run := Run.table europeanNumberText

/-- The runs of the marks that take no room of their own. -/
def nonspacingMarks : List Run := Run.table nonspacingMarkText

/-- The runs of the characters without a direction. -/
def neutrals : List Run := Run.table neutralText

/-- The direction of a character. -/
def direction (c : Char) : Direction :=
  if c.toNat < 0x80 then
    if c.isDigit then .europeanNumber else if c.isAlpha then .leftToRight else .neutral
  else if inRuns rightToLeft c then .rightToLeft
  else if inRuns arabicNumbers c then .arabicNumber
  else if inRuns europeanNumbers c then .europeanNumber
  else if inRuns nonspacingMarks c then .mark
  else if inRuns neutrals c then .neutral
  else .leftToRight

/-- Whether a text holds anything that is written from right to left. -/
def turns (s : List Char) : Bool :=
  s.any fun c => direction c == .rightToLeft || direction c == .arabicNumber

/-- Directions without the marks at their end. -/
def dropMarks (ds : List Direction) : List Direction :=
  (ds.reverse.dropWhile (· == .mark)).reverse

/-- Whether what follows a letter written from left to right keeps its order. -/
def keepsLeftToRight (ds : List Direction) : Bool :=
  ds.all (fun d => d != .rightToLeft && d != .arabicNumber) &&
    ds.getLast?.all fun d => d == .leftToRight || d == .europeanNumber

/-- Whether what follows a letter written from right to left keeps its order; its numbers are of one
kind. -/
def keepsRightToLeft (ds : List Direction) : Bool :=
  ds.all (· != .leftToRight) &&
    !(ds.contains .europeanNumber && ds.contains .arabicNumber) &&
    ds.getLast?.all fun d => d == .rightToLeft || d == .europeanNumber || d == .arabicNumber

/-- Whether a part of a domain name keeps its order. -/
def keepsOrder (label : List Char) : Bool :=
  match label.map direction with
  | [] => true
  | .leftToRight :: ds => keepsLeftToRight (dropMarks ds)
  | .rightToLeft :: ds => keepsRightToLeft (dropMarks ds)
  | _ => false

end HamlServer.DomainName
