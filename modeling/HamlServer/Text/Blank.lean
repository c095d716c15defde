/-!
White space and trimming.

`isBlank` holds the characters with the Unicode property White_Space.  Trimming, blank lines and
the runs of white space that the template patterns allow all mean this set.

* `leading_append_trimStart`: the white space in front and the rest make up the text.
* `trimStart_eq_nil_iff`: a text is blank exactly when trimming leaves nothing of it.
-/

namespace HamlServer.Text

/-- The characters with the Unicode property White_Space. -/
def isBlank (c : Char) : Bool :=
  let n := c.toNat
  (9 ≤ n && n ≤ 13) || n == 0x20 || n == 0x85 || n == 0xA0 || n == 0x1680 ||
    (0x2000 ≤ n && n ≤ 0x200A) || n == 0x2028 || n == 0x2029 || n == 0x202F || n == 0x205F ||
    n == 0x3000

/-- The text without the white space in front. -/
def trimStart (s : List Char) : List Char := s.dropWhile isBlank

/-- The text without the white space at the end. -/
def trimEnd (s : List Char) : List Char := (s.reverse.dropWhile isBlank).reverse

/-- The text without the white space at both ends. -/
def trim (s : List Char) : List Char := trimEnd (trimStart s)

/-- The white space in front of a text. -/
def leading (s : List Char) : List Char := s.takeWhile isBlank

/-- A text is blank when it holds white space only. -/
def isBlankText (s : List Char) : Bool := s.all isBlank

/-- `trim` on strings. -/
def trimString (s : String) : String := String.ofList (trim s.toList)

/-- `trimEnd` on strings. -/
def trimEndString (s : String) : String := String.ofList (trimEnd s.toList)

theorem leading_append_trimStart (s : List Char) : leading s ++ trimStart s = s :=
  List.takeWhile_append_dropWhile

@[simp] theorem trimStart_nil : trimStart [] = [] := rfl

@[simp] theorem trimEnd_nil : trimEnd [] = [] := rfl

@[simp] theorem trim_nil : trim [] = [] := rfl

theorem trimStart_eq_nil_iff (s : List Char) : trimStart s = [] ↔ isBlankText s = true := by
  induction s with
  | nil => simp [isBlankText]
  | cons c r ih =>
    simp only [trimStart, isBlankText] at ih ⊢
    by_cases h : isBlank c
    · rw [List.dropWhile_cons_of_pos h, List.all_cons, h, Bool.true_and]
      exact ih
    · simp [h]

end HamlServer.Text
