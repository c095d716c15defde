import HamlServer.Proofs.Correct.Nesting

/-!
# The normal form of corrected documents

Which form a corrected document has does not depend on what it was: its lines end where their text
ends, none of them has a tab, those outside of filter blocks are indented by whole steps, and there
is one line feed behind the last one.  Later corrections cannot undo what the earlier ones did to
the end of a line (`trimLine_fixLine`), and the correction of the indentation is the last one.

* `dvd_frontSpaces_fixLine`: the spaces in front of a corrected line.
* `normalForm_correctString`: the form of a corrected document.
-/

namespace HamlServer.Correct

open Text

variable {c : LintConfig} {w : Nat} {ls : List (List Char)} {out s : List Char}

/-- The number of spaces in front of a line. -/
def frontSpaces (line : List Char) : Nat := (line.takeWhile (· == ' ')).length

/-- What can be said of a corrected document, `ls` being the lines that it was made of and `w` the
width of a step. -/
structure NormalForm (w : Nat) (ls : List (List Char)) (out : List Char) : Prop where
  /-- One line feed stands at the end. -/
  finalNewline : ∃ body, out = body ++ ['\n'] ∧ body.getLast? ≠ some '\n'
  noTab : '\t' ∉ out
  /-- No line has white space at its end. -/
  lineEnds : ∀ line ∈ out.splitOn '\n', trimEnd line = line
  /-- No white space stands at the start, unless there is nothing but the line feed. -/
  start : out = ['\n'] ∨ StartsInk out
  /-- Each line comes out in its place, behind whole steps of spaces if it lies in no filter
  block. -/
  steps : ∀ above line below, ls = above ++ line :: below → ¬ InFilterBlock above line →
    ∃ line', (out.splitOn '\n')[above.length]? = some line' ∧ w ∣ frontSpaces line'

/-- The spaces in front of a line with its indentation brought to whole steps. -/
theorem frontSpaces_normalizeIndent (w : Nat) (s : List Char) :
    frontSpaces (normalizeIndent w true s) = columns w (s.takeWhile isIndent) / w * w := by
  have hstop : ∀ x ∈ (s.dropWhile isIndent).head?, (x == ' ') = false := fun x hx => by
    have hx' := dropWhile_stop isIndent s x hx
    rw [isIndent, Bool.or_eq_false_iff] at hx'
    exact hx'.1
  have hfront : (normalizeIndent w true s).takeWhile (· == ' ') =
      indentOf w true (columns w (s.takeWhile isIndent) / w) := by
    rw [normalizeIndent_eq, takeWhile_append_of_stop hstop, List.takeWhile_eq_self_iff]
    intro x hx
    rw [eq_stepChar_of_mem_indentOf hx]
    rfl
  rw [frontSpaces, hfront, indentOf, if_pos rfl, List.length_replicate]

/-- A line outside of filter blocks comes out behind whole steps of spaces, whatever stood in front
of it. -/
theorem dvd_frontSpaces_fixLine (henabled : c.isEnabled "Indentation" = true)
    (hspaces : usesSpaces c = true) (s : List Char) :
    indentWidth c ∣ frontSpaces (fixLine c false s) := by
  obtain ⟨front, hfix, -⟩ := exists_fixLine_eq henabled s
  rw [hfix, hspaces, frontSpaces_normalizeIndent]
  exact Nat.dvd_mul_left _ _

theorem finalNewline_eq (hfinal : c.isEnabled "FinalNewline" = true)
    (hpresent : (c.bool? "FinalNewline" "present").getD true = true) :
    finalNewline c = ['\n'] := by
  rw [finalNewline, if_pos hfinal, if_pos hpresent]

/-- The lines of a document with its lines corrected and a line feed behind them. -/
theorem splitOn_correctLines_append (c : LintConfig) (s : List Char) :
    (correctLines c s ++ ['\n']).splitOn '\n' = fixLines c none (docLines s) ++ [[]] := by
  rw [List.splitOn_append_cons_self, splitOn_correctLines, List.splitOn_nil]

theorem normalForm_correct (htrim : c.isEnabled "TrailingWhitespace" = true)
    (hindent : c.isEnabled "Indentation" = true) (hfinal : c.isEnabled "FinalNewline" = true)
    (hspaces : usesSpaces c = true)
    (hpresent : (c.bool? "FinalNewline" "present").getD true = true) (s : List Char) :
    NormalForm (indentWidth c) (docLines (sanitize s)) (correct c s) := by
  have hbody : Trimmed (correctLines c (sanitize s)) :=
    trimmed_correctLines c (trimmed_sanitize s)
  rw [correct_eq, finalNewline_eq hfinal hpresent]
  constructor
  case finalNewline => exact ⟨_, rfl, hbody.getLast?_ne_lineFeed⟩
  case noTab =>
    rw [List.mem_append, List.mem_singleton, not_or]
    exact ⟨tab_notMem_correctLines hspaces (tab_notMem_sanitize s), by decide⟩
  case lineEnds =>
    intro line hline
    rw [splitOn_correctLines_append, List.mem_append, List.mem_singleton] at hline
    rcases hline with hline | rfl
    · obtain ⟨line', -, inFilter, rfl⟩ := mem_fixLines hline
      exact trimLine_fixLine htrim inFilter line'
    · rfl
  case start =>
    rcases hbody with hnil | ⟨hstart, -⟩
    · rw [hnil]
      exact Or.inl rfl
    · exact Or.inr (hstart.append _)
  case steps =>
    intro above line below hlines hout
    refine ⟨fixLine c false line, ?_, dvd_frontSpaces_fixLine hindent hspaces line⟩
    rw [splitOn_correctLines_append, hlines, fixLines_split hout, List.append_assoc,
      List.getElem?_append_right (Nat.le_of_eq (length_fixLines c none above)), length_fixLines,
      Nat.sub_self]
    rfl

/-- A corrected document is in normal form, whatever it was. -/
theorem normalForm_correctString (htrim : c.isEnabled "TrailingWhitespace" = true)
    (hindent : c.isEnabled "Indentation" = true) (hfinal : c.isEnabled "FinalNewline" = true)
    (hspaces : usesSpaces c = true)
    (hpresent : (c.bool? "FinalNewline" "present").getD true = true) (s : String) :
    NormalForm (indentWidth c) (docLines (sanitize s.toList)) (correctString c s).toList := by
  rw [correctString, String.toList_ofList]
  exact normalForm_correct htrim hindent hfinal hspaces hpresent s.toList

/-- A script under an element, with tabs, an ideographic space and odd indentations. -/
theorem normalForm_correctString_script :
    let s := " %ul \n   \u3000%li\n\t :css\n     a  b\t\n   %p\r\n\n\n"
    LintConfig.default.isEnabled "TrailingWhitespace" = true ∧
      LintConfig.default.isEnabled "Indentation" = true ∧
      LintConfig.default.isEnabled "FinalNewline" = true ∧
      usesSpaces .default = true ∧
      (LintConfig.default.bool? "FinalNewline" "present").getD true = true ∧
      NormalForm 2 (docLines (sanitize s.toList))
        "%ul\n  \u3000%li\n  :css\n     a  b\n  %p\n".toList := by
  intro s
  have htrim : LintConfig.default.isEnabled "TrailingWhitespace" = true := by decide
  have hindent : LintConfig.default.isEnabled "Indentation" = true := by decide
  have hfinal : LintConfig.default.isEnabled "FinalNewline" = true := by decide
  have hspaces : usesSpaces .default = true := by decide
  have hpresent : (LintConfig.default.bool? "FinalNewline" "present").getD true = true := by decide
  have hout : (correctString .default s).toList =
      "%ul\n  \u3000%li\n  :css\n     a  b\n  %p\n".toList := by decide
  have hform := normalForm_correctString htrim hindent hfinal hspaces hpresent s
  rw [hout] at hform
  exact ⟨htrim, hindent, hfinal, hspaces, hpresent, hform⟩

end HamlServer.Correct
