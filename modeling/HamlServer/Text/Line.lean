import HamlServer.Text.Blank

/-!
Lines of a text.

A document is cut at every line feed; a carriage return right in front of a line feed, or at the
very end, belongs to the terminator and not to the line.  `lines` counts a final line feed as the
end of the last line, `docLines` as the start of an empty one.
-/

namespace HamlServer.Text

/-- The text without the character `c` at its end, if it ends with one. -/
def dropLast? (c : Char) (s : List Char) : Option (List Char) :=
  if s.getLast? = some c then some s.dropLast else none

/-- A line without one carriage return at its end. -/
def stripReturn (line : List Char) : List Char := (dropLast? '\r' line).getD line

/-- The lines of a document: the pieces between line feeds, without their carriage returns. -/
def docLines (s : List Char) : List (List Char) := (s.splitOn '\n').map stripReturn

/-- The lines of a listing or file: a final line feed ends the last line and opens no other. -/
def lines (s : List Char) : List (List Char) :=
  let pieces := s.splitOn '\n'
  let last := pieces.getLastD []
  let ended := pieces.dropLast.map stripReturn
  if last = [] then ended else ended ++ [last]

/-- Lines joined by line feeds. -/
def joinLines (ls : List (List Char)) : List Char := List.intercalate ['\n'] ls

/-- What stands before and after the first `c`. -/
def cutAt (c : Char) : List Char → Option (List Char × List Char)
  | [] => none
  | x :: r => if x = c then some ([], r) else (cutAt c r).map fun (a, b) => (x :: a, b)

/-- What stands before and after the last `c`. -/
def cutAtLast (c : Char) (s : List Char) : Option (List Char × List Char) :=
  (cutAt c s.reverse).map fun (a, b) => (b.reverse, a.reverse)

/-- The rest of a text after a given beginning. -/
def dropStart? : List Char → List Char → Option (List Char)
  | [], s => some s
  | _ :: _, [] => none
  | p :: ps, c :: r => if p = c then dropStart? ps r else none

/-- The text in front of a given ending. -/
def dropEnd? (tail s : List Char) : Option (List Char) :=
  (dropStart? tail.reverse s.reverse).map List.reverse

/-- Whether `needle` occurs in a text. -/
def contains (needle : List Char) : List Char → Bool
  | [] => needle.isEmpty
  | c :: r => needle.isPrefixOf (c :: r) || contains needle r

/-- The first success of a matcher that is tried at every position, from the front. -/
def findMatch {α : Type} (matcher : List Char → Option α) : List Char → Option α
  | [] => matcher []
  | c :: r => (matcher (c :: r)).orElse fun _ => findMatch matcher r

theorem dropStart?_eq_some_iff {p s r : List Char} : dropStart? p s = some r ↔ s = p ++ r := by
  induction p generalizing s with
  | nil => simp [dropStart?, eq_comm]
  | cons a p ih =>
    cases s with
    | nil => simp [dropStart?]
    | cons c s =>
      by_cases h : a = c
      · simp [dropStart?, h, ih]
      · simp [dropStart?, h, Ne.symm h]

theorem cutAt_eq_some {c : Char} {s a b : List Char} (h : cutAt c s = some (a, b)) :
    s = a ++ c :: b ∧ c ∉ a := by
  induction s generalizing a b with
  | nil => simp [cutAt] at h
  | cons x r ih =>
    by_cases hx : x = c
    · simp only [cutAt, hx, if_true, Option.some.injEq, Prod.mk.injEq] at h
      obtain ⟨rfl, rfl⟩ := h
      simp [hx]
    · simp only [cutAt, hx, if_false, Option.map_eq_some_iff, Prod.mk.injEq, Prod.exists] at h
      obtain ⟨a', b', h', rfl, rfl⟩ := h
      obtain ⟨rfl, hc⟩ := ih h'
      simp [hc, Ne.symm hx]

theorem cutAt_append {c : Char} {a : List Char} (h : c ∉ a) (b : List Char) :
    cutAt c (a ++ c :: b) = some (a, b) := by
  induction a with
  | nil => simp [cutAt]
  | cons x a ih =>
    rw [List.mem_cons, not_or] at h
    rw [List.cons_append, cutAt, if_neg (Ne.symm h.1), ih h.2]
    rfl

theorem cutAt_eq_none {c : Char} {s : List Char} (h : c ∉ s) : cutAt c s = none := by
  cases hs : cutAt c s with
  | none => rfl
  | some p =>
    obtain ⟨hp, -⟩ := cutAt_eq_some hs
    exact absurd (by rw [hp]; simp) h

end HamlServer.Text
