import HamlServer.Text.Digits

/-!
Runs of code points.

The tables of characters are lines of words.  A word writes a run: the first and the last code point
in hexadecimal with a hyphen between them, or the only one, and a slash behind them when every
second one is meant.
-/

namespace HamlServer.DomainName

/-- The words of a table. -/
def tableWords (lines : List String) : List (List Char) :=
  lines.flatMap fun line => line.toList.splitOn ' '

/-- The number that hexadecimal digits spell; other characters do not count. -/
def codePoint (s : List Char) : Nat := Text.ofDigits 16 (s.filterMap Text.hexDigit?)

/-- A run of code points: from the first to the last those that are `step` apart. -/
structure Run where
  first : Nat
  last : Nat
  step : Nat
  deriving DecidableEq, Repr

namespace Run

/-- Reads a run. -/
def ofWord (s : List Char) : Run :=
  let step := if s.getLast? = some '/' then 2 else 1
  match s.splitOn '-' with
  | [first, last] => ⟨codePoint first, codePoint last, step⟩
  | _ => ⟨codePoint s, codePoint s, step⟩

/-- The runs of a table. -/
def table (lines : List String) : List Run := (tableWords lines).map ofWord

/-- Whether a character is one of a run. -/
def contains (r : Run) (c : Char) : Bool :=
  decide (r.first ≤ c.toNat) && decide (c.toNat ≤ r.last) && (c.toNat - r.first) % r.step == 0

end Run

/-- Whether a character lies in one of several runs. -/
def inRuns (runs : List Run) (c : Char) : Bool := runs.any (·.contains c)

end HamlServer.DomainName
