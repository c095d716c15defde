import HamlServer.Proofs.Correct.Document
import Mathlib.Data.List.Forall2

/-!
# What a corrected document says

Corrections other than the one of attributes move white space, and the one of classes and ids
changes the order of what stands in a line.  So no line is lost, and none says anything else than
before.

* `ink_fixLine_perm`, `ink_fixLine`: the ink of a corrected line.
* `map_ink_docLines_sanitize`: spreading tabs changes the ink of no line.
* `ink_correctString`: the ink of a corrected document, line by line and as a whole.
-/

namespace HamlServer.Correct

open Text

variable {c : LintConfig} {rule : LineRule} {s : List Char}

/-! ## Lines -/

theorem LineRule.ink_fix_perm (hhash : rule ≠ .htmlAttributes) (s : List Char) :
    (ink (rule.fix c s)).Perm (ink s) := by
  cases rule with
  | trailingWhitespace => exact .of_eq (ink_trimEnd s)
  | classesBeforeIds => exact (orderSegments_perm _ s).filter _
  | spaceBeforeScript => exact .of_eq (ink_spaceScript s)
  | leadingCommentSpace => exact .of_eq (ink_spaceComment s)
  | htmlAttributes => exact absurd rfl hhash
  | indentation => exact .of_eq (ink_normalizeIndent _ _ s)

theorem LineRule.ink_fix (hclass : rule ≠ .classesBeforeIds) (hhash : rule ≠ .htmlAttributes)
    (s : List Char) : ink (rule.fix c s) = ink s := by
  cases rule with
  | trailingWhitespace => exact ink_trimEnd s
  | classesBeforeIds => exact absurd rfl hclass
  | spaceBeforeScript => exact ink_spaceScript s
  | leadingCommentSpace => exact ink_spaceComment s
  | htmlAttributes => exact absurd rfl hhash
  | indentation => exact ink_normalizeIndent _ _ s

theorem LineRule.Applies.ne {inFilter : Bool} {other : LineRule} (happ : rule.Applies c inFilter)
    (h : c.isEnabled other.name = false) : rule ≠ other := by
  rintro rfl
  rw [happ.1] at h
  cases h

/-- A corrected line has the characters that it had, but for white space. -/
theorem ink_fixLine_perm (hhash : c.isEnabled "HtmlAttributes" = false) (inFilter : Bool)
    (s : List Char) : (ink (fixLine c inFilter s)).Perm (ink s) := by
  refine fixLine_induction (P := fun s' => (ink s').Perm (ink s)) (.refl _)
    fun rule happ s' hs' => ?_
  have hne : rule ≠ .htmlAttributes := happ.ne hhash
  exact (LineRule.ink_fix_perm hne s').trans hs'

/-- A line whose classes and ids are left in their order reads as before, but for white space. -/
theorem ink_fixLine (hclass : c.isEnabled "ClassesBeforeIds" = false)
    (hhash : c.isEnabled "HtmlAttributes" = false) (inFilter : Bool) (s : List Char) :
    ink (fixLine c inFilter s) = ink s := by
  refine fixLine_induction (P := fun s' => ink s' = ink s) rfl fun rule happ s' hs' => ?_
  have hne : rule ≠ .classesBeforeIds := happ.ne hclass
  rw [LineRule.ink_fix hne (happ.ne hhash), hs']

theorem map_ink_fixLines (hclass : c.isEnabled "ClassesBeforeIds" = false)
    (hhash : c.isEnabled "HtmlAttributes" = false) (block : Option Nat) (ls : List (List Char)) :
    (fixLines c block ls).map ink = ls.map ink := by
  induction ls generalizing block with
  | nil => rfl
  | cons line ls ih => rw [fixLines, List.map_cons, List.map_cons, ink_fixLine hclass hhash, ih]

/-! ## Tabs -/

theorem ink_flatMap_spreadTab (s : List Char) : ink (s.flatMap spreadTab) = ink s := by
  induction s with
  | nil => rfl
  | cons x s ih =>
    rw [List.flatMap_cons, ink_append, ih]
    rcases eq_or_ne x '\t' with rfl | hne
    · rw [ink_cons_of_blank rfl]
      rfl
    · rw [spreadTab_of_ne hne, ← ink_append, List.singleton_append]

/-- Spreading tabs neither takes nor brings a carriage return at the end of a line. -/
theorem stripReturn_flatMap_spreadTab (s : List Char) :
    stripReturn (s.flatMap spreadTab) = (stripReturn s).flatMap spreadTab := by
  rcases List.eq_nil_or_concat s with rfl | ⟨r, x, rfl⟩
  · rfl
  · rw [List.concat_eq_append, List.flatMap_append, List.flatMap_singleton, stripReturn_concat]
    rcases eq_or_ne x '\t' with rfl | hne
    · rw [if_neg (by decide), List.flatMap_append, List.flatMap_singleton]
      show stripReturn (r.flatMap spreadTab ++ ([' '] ++ [' '])) = _
      rw [← List.append_assoc, stripReturn_concat, if_neg (by decide), List.append_assoc]
      rfl
    · rw [spreadTab_of_ne hne, stripReturn_concat]
      split
      · rfl
      · rw [List.flatMap_append, List.flatMap_singleton, spreadTab_of_ne hne]

/-- Tabs are spread in each line on its own. -/
theorem docLines_sanitize (s : List Char) :
    docLines (sanitize s) = (docLines (trim s)).map (·.flatMap spreadTab) := by
  have hfeed (x : Char) (hx : x ≠ '\n') : '\n' ∉ spreadTab x := fun hmem => by
    rcases mem_spreadTab hmem with h | ⟨h, -⟩
    · cases h
    · exact hx h.symm
  have hsplit : (sanitize s).splitOn '\n' = ((trim s).splitOn '\n').map (·.flatMap spreadTab) :=
    splitOn_flatMap (spreadTab_of_ne (by decide)) hfeed (trim s)
  rw [docLines, docLines, hsplit, List.map_map, List.map_map]
  exact List.map_congr_left fun l _ => stripReturn_flatMap_spreadTab l

/-- Spreading tabs changes the ink of no line. -/
theorem map_ink_docLines_sanitize (s : List Char) :
    (docLines (sanitize s)).map ink = (docLines (trim s)).map ink := by
  rw [docLines_sanitize, List.map_map]
  exact List.map_congr_left fun l _ => ink_flatMap_spreadTab l

/-! ## Documents -/

/-- A document without the line feed at its end. -/
def withoutFinalNewline (s : List Char) : List Char := (dropLast? '\n' s).getD s

theorem withoutFinalNewline_append (h : Trimmed s) (c : LintConfig) :
    withoutFinalNewline (s ++ finalNewline c) = s := by
  have hlast : dropLast? '\n' s = none := if_neg h.getLast?_ne_lineFeed
  rw [finalNewline]
  split_ifs
  · rw [withoutFinalNewline, dropLast?, if_pos List.getLast?_concat, List.dropLast_concat]
    rfl
  · rw [List.append_nil, withoutFinalNewline, hlast]
    rfl
  · rw [List.append_nil, withoutFinalNewline, hlast]
    rfl

/-- The lines of a corrected document are its corrected lines. -/
theorem docLines_withoutFinalNewline_correct (c : LintConfig) (s : List Char) :
    docLines (withoutFinalNewline (correct c s)) =
      (fixLines c none (docLines (sanitize s))).map stripReturn := by
  rw [correct_eq, withoutFinalNewline_append (trimmed_correctLines c (trimmed_sanitize s)),
    docLines_correctLines]

/-- The lines of a corrected document correspond to those of the trimmed document, with the
characters that they had, but for white space. -/
theorem forall₂_ink_correct (hhash : c.isEnabled "HtmlAttributes" = false) (s : List Char) :
    List.Forall₂ (fun out line => (ink out).Perm (ink line))
      (docLines (withoutFinalNewline (correct c s))) (docLines (trim s)) := by
  have hlines : List.Forall₂ (fun out line => (ink out).Perm (ink line))
      (fixLines c none (docLines (sanitize s))) (docLines (sanitize s)) := by
    refine (forall₂_fixLines c none _).imp fun out line hout => ?_
    obtain ⟨inFilter, rfl⟩ := hout
    exact ink_fixLine_perm hhash inFilter line
  have hinks : List.Forall₂ (fun out i => (ink out).Perm i)
      (fixLines c none (docLines (sanitize s))) ((docLines (trim s)).map ink) := by
    rw [← map_ink_docLines_sanitize, List.forall₂_map_right_iff]
    exact hlines
  rw [docLines_withoutFinalNewline_correct, List.forall₂_map_left_iff]
  refine (List.forall₂_map_right_iff.1 hinks).imp fun out line hout => ?_
  rwa [ink_stripReturn]

/-- Without corrections that change the order of characters or write others, a document reads as
before. -/
theorem ink_correct (hclass : c.isEnabled "ClassesBeforeIds" = false)
    (hhash : c.isEnabled "HtmlAttributes" = false) (s : List Char) :
    ink (correct c s) = ink s := by
  rw [correct_eq, ink_append, ink_of_isBlankText (isBlankText_finalNewline c), List.append_nil]
  calc ink (correctLines c (sanitize s))
      = ((fixLines c none (docLines (sanitize s))).map ink).flatten := by
        rw [correctLines, ink_joinLines, List.flatMap_def]
    _ = (docLines (sanitize s)).flatMap ink := by
        rw [map_ink_fixLines hclass hhash, List.flatMap_def]
    _ = ink (sanitize s) := flatMap_ink_docLines _
    _ = ink s := by rw [sanitize_eq, ink_flatMap_spreadTab, ink_trim]

/-- If no attributes are written as a hash, each line of a corrected document has the characters of
the line that it comes from, but for white space; if classes and ids are left in their order as
well, the document reads as before. -/
theorem ink_correctString (hhash : c.isEnabled "HtmlAttributes" = false) (s : String) :
    List.Forall₂ (fun out line => (ink out).Perm (ink line))
        (docLines (withoutFinalNewline (correctString c s).toList)) (docLines (trim s.toList)) ∧
      (c.isEnabled "ClassesBeforeIds" = false →
        ink (correctString c s).toList = ink s.toList) := by
  rw [correctString, String.toList_ofList]
  exact ⟨forall₂_ink_correct hhash s.toList,
    fun hclass => ink_correct hclass hhash s.toList⟩

/-- Linters that neither order classes and ids nor write attributes as a hash. -/
def plainLinters : LintConfig :=
  .ofEntries [("ClassesBeforeIds", { enabled := some false }),
    ("HtmlAttributes", { enabled := some false })]

theorem ink_correctString_plain :
    plainLinters.isEnabled "HtmlAttributes" = false ∧
      plainLinters.isEnabled "ClassesBeforeIds" = false ∧
      List.Forall₂ (fun out line => (ink out).Perm (ink line))
        (docLines (withoutFinalNewline (correctString plainLinters "\t#a.b \n  =foo\n").toList))
        (docLines (trim "\t#a.b \n  =foo\n".toList)) ∧
      ink (correctString plainLinters "\t#a.b \n  =foo\n").toList =
        ink "\t#a.b \n  =foo\n".toList := by
  have hhash : plainLinters.isEnabled "HtmlAttributes" = false := by decide
  have hclass : plainLinters.isEnabled "ClassesBeforeIds" = false := by decide
  obtain ⟨hlines, hdocument⟩ := ink_correctString hhash "\t#a.b \n  =foo\n"
  exact ⟨hhash, hclass, hlines, hdocument hclass⟩

end HamlServer.Correct
