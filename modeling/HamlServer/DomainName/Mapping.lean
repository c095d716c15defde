import HamlServer.DomainName.MappingTable
import HamlServer.DomainName.Run

/-!
The folding of domain names.

Upper and lower case are one, and so are the many forms that a letter or a digit has; some
characters stand for nothing, and some cannot stand in a domain name.

* `foldChar?_of_ascii`: of the characters of ASCII, only capital letters are folded.
-/

namespace HamlServer.DomainName

/-- A rule of folding: a run of characters, and the code points that the first of them stands
for. -/
structure Folding where
  run : Run
  image : List Nat

namespace Folding

/-- Reads a rule: a run, a sign, and code points with points between them. -/
def ofWord (s : List Char) : Folding :=
  match s.splitOn '>' with
  | [run, image] => ⟨.ofWord run, (image.splitOn '.').map codePoint⟩
  | _ => ⟨.ofWord s, []⟩

/-- What a rule makes of a character.  The characters of a run stand for single characters that
follow each other in the same way. -/
def imageOf? (f : Folding) (c : Char) : Option (List Char) :=
  if f.run.contains c then
    match f.image with
    | [n] => some [Char.ofNat (n + (c.toNat - f.run.first))]
    | image => some (image.map Char.ofNat)
  else none

end Folding

/-- The rules of folding. -/
def foldings : List Folding := (tableWords mappingText).map .ofWord

/-- The characters that stand for nothing. -/
def ignored : List Run := Run.table ignoredText

/-- The characters outside ASCII that no domain name holds. -/
def forbidden : List Run := Run.table forbiddenText

/-- The text that a character stands for, if it can stand in a domain name. -/
def foldChar? (c : Char) : Option (List Char) :=
  if c.toNat < 0x80 then some [c.toLower]
  else match foldings.findSome? (·.imageOf? c) with
    | some text => some text
    | none =>
      if inRuns ignored c then some [] else if inRuns forbidden c then none else some [c]

/-- The text that a text stands for. -/
def fold? (s : List Char) : Option (List Char) := (s.mapM foldChar?).map List.flatten

/-- Whether a character stands for itself. -/
def isFolded (c : Char) : Bool := foldChar? c == some [c]

theorem foldChar?_of_ascii {c : Char} (h : c.toNat < 0x80) : foldChar? c = some [c.toLower] := by
  simp [foldChar?, h]

end HamlServer.DomainName
