import HamlServer.DomainName.Composition
import HamlServer.DomainName.JoiningTable

/-!
Marks and joiners in domain names.

A joiner and a non-joiner are seen only by what they do to the letters beside them.  They may stand
where they do something: behind a mark that takes a letter's vowel away, and the non-joiner also
between letters that would be joined.
-/

namespace HamlServer.DomainName

/-- The runs of the letters that join the letter behind them. -/
def forwardJoining : List Run := Run.table (leftJoiningText ++ dualJoiningText)

/-- The runs of the letters that join the letter in front of them. -/
def backwardJoining : List Run := Run.table (rightJoiningText ++ dualJoiningText)

/-- The runs of the characters that letters join across. -/
def transparent : List Run := Run.table transparentText

/-- The runs of the marks. -/
def marks : List Run := Run.table markText

/-- Whether a character is a mark. -/
def isMark (c : Char) : Bool := inRuns marks c

/-- The class of the marks that take a letter's vowel away. -/
def viramaClass : Nat := 9

/-- Whether the letter nearest to the start of a text joins. -/
def nearestJoins (joining : List Run) (s : List Char) : Bool :=
  (s.dropWhile (inRuns transparent)).head?.any (inRuns joining)

/-- Whether the joiners of a text do something; `before` is what stands in front of it, backwards. -/
def joinersCount (before : List Char) : List Char → Bool
  | [] => true
  | c :: r =>
    let counts :=
      before.head?.any (fun b => markClass b == viramaClass) ||
        (c == '\u200C' && nearestJoins forwardJoining before && nearestJoins backwardJoining r)
    (!(c == '\u200C' || c == '\u200D') || counts) && joinersCount (c :: before) r

end HamlServer.DomainName
