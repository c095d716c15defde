import HamlServer.Proofs.Correct.Nesting

/-!
# Lines that are indented by whole steps

A line in front of which there are whole steps and nothing else keeps them.  Spaces do so for every
width of a step.  A tab is first spread to two spaces, and two columns are one step where the width
is two.  The one line that may lose its steps is a blank one: they are white space at its end, too.

* `fixLines_of_not_isFilterLine`: without filter lines, each line is corrected on its own.
* `leading_normalizeIndent`: what stands in front of a line after its indentation was rounded down.
* `leading_correctString`: what stands in front of the lines of a corrected document.
-/

namespace HamlServer.Correct

open Text

variable {c : LintConfig} {w k : Nat} {spaces : Bool} {line s : List Char} {ls : List (List Char)}

/-- What stands in front of a line is a number of whole steps, as they are configured. -/
def InSteps (c : LintConfig) (line : List Char) : Prop :=
  ∃ k, leading line = indentOf (indentWidth c) (usesSpaces c) k

theorem inSteps_iff : InSteps c line ↔
    leading line = indentOf (indentWidth c) (usesSpaces c)
      (columns (indentWidth c) (leading line) / indentWidth c) := by
  constructor
  · rintro ⟨k, hk⟩
    rw [hk, columns_indentOf, Nat.mul_div_cancel k (indentWidth_pos c)]
  · intro h
    exact ⟨_, h⟩

instance : Decidable (InSteps c line) := decidable_of_iff _ inSteps_iff.symm

/-! ## Tabs in front of a line -/

theorem trimStart_flatMap_spreadTab (s : List Char) :
    trimStart (s.flatMap spreadTab) = (trimStart s).flatMap spreadTab := by
  induction s with
  | nil => rfl
  | cons x s ih =>
    rw [List.flatMap_cons]
    rcases eq_or_ne x '\t' with rfl | hne
    · rw [trimStart_append (show isBlankText (spreadTab '\t') = true from rfl), ih]
      rfl
    · rw [spreadTab_of_ne hne]
      cases hx : isBlank x with
      | true =>
        have hblank : isBlankText [x] = true := by simp [isBlankText, hx]
        rw [trimStart_append hblank, ih, ← List.singleton_append, trimStart_append hblank]
      | false =>
        have hstart (r : List Char) : trimStart (x :: r) = x :: r :=
          (startsInk_cons.2 hx).trimStart_eq
        rw [List.singleton_append, hstart, hstart, List.flatMap_cons, spreadTab_of_ne hne]
        rfl

theorem leading_flatMap_spreadTab (s : List Char) :
    leading (s.flatMap spreadTab) = (leading s).flatMap spreadTab := by
  have h := leading_append_trimStart (s.flatMap spreadTab)
  conv_rhs at h => rw [← leading_append_trimStart s, List.flatMap_append]
  rw [trimStart_flatMap_spreadTab] at h
  exact List.append_cancel_right h

theorem isBlankText_flatMap_spreadTab (s : List Char) :
    isBlankText (s.flatMap spreadTab) = isBlankText s := by
  have hnil (x : Char) : spreadTab x ≠ [] := by
    rw [spreadTab]
    split <;> exact List.cons_ne_nil _ _
  rw [Bool.eq_iff_iff, ← trimStart_eq_nil_iff, ← trimStart_eq_nil_iff,
    trimStart_flatMap_spreadTab, List.flatMap_eq_nil_iff]
  constructor
  · intro h
    exact List.eq_nil_iff_forall_not_mem.2 fun x hx => hnil x (h x hx)
  · intro h x hx
    rw [h] at hx
    cases hx

/-- Spreading tabs makes no line a filter line. -/
theorem isFilterLine_flatMap_spreadTab (h : isFilterLine line = false) :
    isFilterLine (line.flatMap spreadTab) = false := by
  rw [Bool.eq_false_iff]
  intro hspread
  obtain ⟨name, hname, hne, hword⟩ := isFilterLine_iff.1 hspread
  rw [trimStart_flatMap_spreadTab] at hname
  have htab : '\t' ∉ trimStart line := fun hmem => by
    have hspace : ' ' ∈ ':' :: name := by
      rw [← hname]
      exact List.mem_flatMap.2 ⟨'\t', hmem, by decide⟩
    rcases List.mem_cons.1 hspace with he | hmem
    · cases he
    · exact absurd (hword ' ' hmem) (by decide)
  rw [flatMap_spreadTab_of_notMem htab] at hname
  rw [isFilterLine_iff.2 ⟨name, hname, hne, hword⟩] at h
  cases h

/-- Steps take up the same columns when their tabs are spread, if a tab is as wide as its two
spaces. -/
theorem flatMap_spreadTab_indentOf (h : spaces = true ∨ w = 2) (k : Nat) :
    (indentOf w spaces k).flatMap spreadTab = List.replicate (k * w) ' ' := by
  cases spaces with
  | true =>
    refine flatMap_spreadTab_of_notMem fun hmem => ?_
    cases eq_stepChar_of_mem_indentOf hmem
  | false =>
    obtain rfl : w = 2 := h.resolve_left Bool.false_ne_true
    rw [indentOf, if_neg Bool.false_ne_true]
    induction k with
    | zero => rfl
    | succ k ih =>
      rw [List.replicate_succ, List.flatMap_cons, ih, Nat.succ_mul, Nat.add_comm,
        List.replicate_add]
      rfl

/-! ## Lines without filter blocks -/

/-- Without filter lines, each line is corrected on its own. -/
theorem fixLines_of_not_isFilterLine (h : ∀ line ∈ ls, isFilterLine line = false) :
    fixLines c none ls = ls.map (fixLine c false) := by
  induction ls with
  | nil => rfl
  | cons line ls ih =>
    rw [List.forall_mem_cons] at h
    have hstill : stillOpen none line = none := rfl
    have hopened : openedBy none line = none := by
      rw [openedBy, h.1]
      rfl
    rw [fixLines, hstill, hopened, ih h.2, List.map_cons]
    rfl

/-! ## Blank lines -/

/-- There is nothing for the corrections of other things than white space in a blank line. -/
theorem LineRule.fix_of_blank {rule : LineRule} (htrim : rule ≠ .trailingWhitespace)
    (hindent : rule ≠ .indentation) (h : isBlankText s = true) : rule.fix c s = s := by
  have hmarked {F : List Char} {f : List Char → List Char} (hf : Marked F f) : f s = s := by
    have happend := hf.indented s [] h
    rwa [hf.nil, List.append_nil] at happend
  cases rule with
  | trailingWhitespace => exact absurd rfl htrim
  | classesBeforeIds => exact hmarked (marked_orderSegments _)
  | spaceBeforeScript => exact hmarked marked_spaceScript
  | leadingCommentSpace => exact hmarked marked_spaceComment
  | htmlAttributes => exact hmarked marked_hashAttributes
  | indentation => exact absurd rfl hindent

theorem isBlankText_normalizeIndent (h : isBlankText s = true) (w : Nat) (spaces : Bool) :
    isBlankText (normalizeIndent w spaces s) = true := by
  rw [← trimStart_eq_nil_iff, trimStart_normalizeIndent]
  exact (trimStart_eq_nil_iff s).2 h

/-- Of a blank line nothing is left when white space at the end of lines goes. -/
theorem fixLine_of_blank (htrim : c.isEnabled "TrailingWhitespace" = true) (inFilter : Bool)
    (h : isBlankText s = true) : fixLine c inFilter s = [] := by
  have hblank : isBlankText (fixLine c inFilter s) = true := by
    refine fixLine_induction (P := fun s => isBlankText s = true) h fun rule _ s hs => ?_
    by_cases hfirst : rule = .trailingWhitespace
    · rw [hfirst]
      exact isBlankText_trimEnd hs
    · by_cases hlast : rule = .indentation
      · rw [hlast]
        exact isBlankText_normalizeIndent hs _ _
      · rwa [LineRule.fix_of_blank hfirst hlast hs]
  have hnil : trimEnd (fixLine c inFilter s) = trimEnd [] :=
    trimEnd_append (s := []) hblank
  rw [← trimLine_fixLine htrim, trimLine, hnil, trimEnd_nil]

/-- Otherwise only its indentation is corrected. -/
theorem fixLine_of_blank_of_kept (hindent : c.isEnabled "Indentation" = true)
    (htrim : c.isEnabled "TrailingWhitespace" = false) (h : isBlankText s = true) :
    fixLine c false s = normalizeIndent (indentWidth c) (usesSpaces c) s := by
  have hidem := normalizeIndent_idempotent (indentWidth_pos c) (usesSpaces c)
  have hcases : fixLine c false s = s ∨
      fixLine c false s = normalizeIndent (indentWidth c) (usesSpaces c) s := by
    refine fixLine_induction (P := fun s' => s' = s ∨
      s' = normalizeIndent (indentWidth c) (usesSpaces c) s) (Or.inl rfl) fun rule happ s' hs' => ?_
    have hblank : isBlankText s' = true := by
      rcases hs' with rfl | rfl
      · exact h
      · exact isBlankText_normalizeIndent h _ _
    by_cases hlast : rule = .indentation
    · rw [hlast, LineRule.fix]
      rcases hs' with rfl | rfl
      · exact Or.inr rfl
      · exact Or.inr (hidem s)
    · rwa [LineRule.fix_of_blank (happ.ne htrim) hlast hblank]
  -- the correction of the indentation finds nothing more to do
  have happ : LineRule.indentation.Applies c false :=
    ⟨hindent, fun hfilter => absurd hfilter Bool.false_ne_true⟩
  have hdone := LineRule.indentation.apply_fixLine c false s
  rw [LineRule.apply_of_applies happ, LineRule.fix] at hdone
  rcases hcases with he | he
  · rw [he] at hdone
    rw [he, hdone]
  · exact he

/-! ## Whole steps stay -/

/-- White space of spaces and tabs in front of a line is brought to whole steps. -/
theorem leading_normalizeIndent (h : ∀ x ∈ leading s, isIndent x = true) (w : Nat)
    (spaces : Bool) :
    leading (normalizeIndent w spaces s) = indentOf w spaces (columns w (leading s) / w) := by
  have hindent : s.takeWhile isIndent = leading s := by
    rw [← takeWhile_isIndent_leading, List.takeWhile_eq_self_iff]
    exact h
  have hrest : leading (s.dropWhile isIndent) = [] := by
    have hs : leading s ++ s.dropWhile isIndent = leading s ++ trimStart s := by
      rw [leading_append_trimStart, ← hindent, List.takeWhile_append_dropWhile]
    rw [List.append_cancel_left hs]
    rcases trimStart_eq_nil_or_startsInk s with hnil | hstart
    · rw [hnil]
      rfl
    · exact hstart.leading_eq
  rw [normalizeIndent_eq, hindent, leading_append (isBlankText_indentOf w spaces _), hrest,
    List.append_nil]

/-- What stands in front of a line in whole steps, once its tabs are spread and its indentation is
brought to whole steps: the same as before. -/
theorem leading_normalizeIndent_of_inSteps (hunit : usesSpaces c = true ∨ indentWidth c = 2)
    (hline : InSteps c line) (hs : leading s = leading (line.flatMap spreadTab)) :
    leading (normalizeIndent (indentWidth c) (usesSpaces c) s) = leading line := by
  obtain ⟨k, hk⟩ := hline
  have hspread : leading s = List.replicate (k * indentWidth c) ' ' := by
    rw [hs, leading_flatMap_spreadTab, hk, flatMap_spreadTab_indentOf hunit]
  have hindent : ∀ x ∈ leading s, isIndent x = true := by
    intro x hx
    rw [hspread] at hx
    rw [List.eq_of_mem_replicate hx]
    rfl
  rw [leading_normalizeIndent hindent, hspread, columns_replicate, if_neg (by decide), Nat.mul_one,
    Nat.mul_div_cancel k (indentWidth_pos c), hk]

theorem returnFree_fixLine (h : '\r' ∉ s) (inFilter : Bool) : '\r' ∉ fixLine c inFilter s := by
  refine notMem_fixLine h (by decide) ?_
  rw [stepChar]
  split <;> decide

/-- A line in whole steps keeps what stands in front of it, unless it is blank and white space at
the end of lines goes. -/
theorem leading_fixLine (hindent : c.isEnabled "Indentation" = true)
    (hunit : usesSpaces c = true ∨ indentWidth c = 2) (hline : InSteps c line) :
    leading (stripReturn (fixLine c false (line.flatMap spreadTab))) =
      if c.isEnabled "TrailingWhitespace" = true ∧ isBlankText line = true then []
      else leading line := by
  cases hblank : isBlankText line with
  | true =>
    have hspread := isBlankText_flatMap_spreadTab line
    rw [hblank] at hspread
    cases htrim : c.isEnabled "TrailingWhitespace" with
    | true =>
      rw [fixLine_of_blank htrim false hspread, if_pos ⟨rfl, rfl⟩]
      rfl
    | false =>
      obtain ⟨k, hk⟩ := hline
      have hreturn : '\r' ∉ line.flatMap spreadTab := by
        rw [← leading_of_isBlankText hblank, hk, flatMap_spreadTab_indentOf hunit]
        exact fun hmem => absurd (List.eq_of_mem_replicate hmem) (by decide)
      rw [stripReturn_of_notMem (returnFree_fixLine hreturn false),
        fixLine_of_blank_of_kept hindent htrim hspread,
        leading_normalizeIndent_of_inSteps hunit ⟨k, hk⟩ rfl]
      rfl
  | false =>
    have hspread := isBlankText_flatMap_spreadTab line
    rw [hblank] at hspread
    obtain ⟨front, hfix, hkept⟩ := exists_fixLine_eq hindent (line.flatMap spreadTab)
    obtain ⟨hfront, hlead⟩ := hkept hspread
    have hrest : isBlankText (fixLine c false (line.flatMap spreadTab)) = false := by
      rw [Bool.eq_false_iff, hfix, ne_eq, ← trimStart_eq_nil_iff, trimStart_normalizeIndent]
      exact (startsInk_trimStart_of_not_blank hfront).ne_nil
    rw [(keepsFront_stripReturn _ hrest).2, hfix,
      leading_normalizeIndent_of_inSteps hunit hline hlead, if_neg (by simp)]

/-! ## Documents -/

/-- Where all lines of a document are indented by whole steps and none opens a filter block, the
lines come out of the corrections with what stood in front of them.  Only of blank lines nothing is
left, if white space at the end of lines goes. -/
theorem leading_correctString (hindent : c.isEnabled "Indentation" = true)
    (hunit : usesSpaces c = true ∨ indentWidth c = 2) {s : String} (hs : Trimmed s.toList)
    (hfilter : ∀ line ∈ docLines s.toList, isFilterLine line = false)
    (hsteps : ∀ line ∈ docLines s.toList, InSteps c line) :
    List.Forall₂ (fun out line => leading out =
        if c.isEnabled "TrailingWhitespace" = true ∧ isBlankText line = true then []
        else leading line)
      (docLines (withoutFinalNewline (correctString c s).toList)) (docLines s.toList) := by
  have htrim : trim (s.toList ++ []) = s.toList := hs.trim_append rfl
  rw [List.append_nil] at htrim
  have hspread : ∀ line ∈ (docLines s.toList).map (·.flatMap spreadTab),
      isFilterLine line = false := by
    rw [List.forall_mem_map]
    exact fun line hline => isFilterLine_flatMap_spreadTab (hfilter line hline)
  rw [correctString, String.toList_ofList, docLines_withoutFinalNewline_correct, docLines_sanitize,
    htrim, fixLines_of_not_isFilterLine hspread, List.map_map, List.map_map,
    List.forall₂_map_left_iff, List.forall₂_same]
  exact fun line hline => leading_fixLine hindent hunit (hsteps line hline)

/-- The built-in linters with an indentation of tabs, each as wide as given. -/
def tabSteps (width : Int) : LintConfig :=
  .ofEntries [("Indentation",
    { options := [("character", .string "tab"), ("width", .int width)] })]

/-- Steps of one and two tabs, and a blank line that has one, too. -/
theorem leading_correctString_tabs :
    let c := tabSteps 2
    let s := "%ul\n\t%li\n\t\t=x\n\t\r\n%p"
    c.isEnabled "Indentation" = true ∧ (usesSpaces c = true ∨ indentWidth c = 2) ∧
      Trimmed s.toList ∧ (∀ line ∈ docLines s.toList, isFilterLine line = false) ∧
      (∀ line ∈ docLines s.toList, InSteps c line) ∧
      List.Forall₂ (fun out line => leading out =
          if c.isEnabled "TrailingWhitespace" = true ∧ isBlankText line = true then []
          else leading line)
        (docLines (withoutFinalNewline (correctString c s).toList)) (docLines s.toList) := by
  intro c s
  have hindent : c.isEnabled "Indentation" = true := by decide
  have hunit : usesSpaces c = true ∨ indentWidth c = 2 := by decide
  have hs : Trimmed s.toList := Or.inr ⟨⟨'%', by decide, rfl⟩, ⟨'p', by decide, rfl⟩⟩
  have hfilter : ∀ line ∈ docLines s.toList, isFilterLine line = false := by decide
  have hsteps : ∀ line ∈ docLines s.toList, InSteps c line := by decide
  exact ⟨hindent, hunit, hs, hfilter, hsteps,
    leading_correctString hindent hunit hs hfilter hsteps⟩

/-- A blank line loses its step, and so does a line behind a tab that is wider than the two spaces
that it is spread to. -/
theorem not_leading_correctString :
    (¬ ∀ (c : LintConfig) (s : String), c.isEnabled "Indentation" = true →
        usesSpaces c = true → Trimmed s.toList →
        (∀ line ∈ docLines s.toList, isFilterLine line = false) →
        (∀ line ∈ docLines s.toList, InSteps c line) →
        List.Forall₂ (fun out line => leading out = leading line)
          (docLines (withoutFinalNewline (correctString c s).toList)) (docLines s.toList)) ∧
      ¬ ∀ (c : LintConfig) (s : String), c.isEnabled "Indentation" = true →
        (∀ line ∈ docLines s.toList, isBlankText line = false) → Trimmed s.toList →
        (∀ line ∈ docLines s.toList, isFilterLine line = false) →
        (∀ line ∈ docLines s.toList, InSteps c line) →
        List.Forall₂ (fun out line => leading out = leading line)
          (docLines (withoutFinalNewline (correctString c s).toList)) (docLines s.toList) := by
  have hends (s : List Char) : Trimmed ('%' :: s ++ ['i']) :=
    Or.inr ⟨startsInk_cons.2 rfl, endsInk_concat.2 rfl⟩
  constructor
  · intro h
    have hkept := h .default "%ul\n  \n%li" (by decide) (by decide) (hends "ul\n  \n%l".toList)
      (by decide) (by decide)
    exact absurd hkept (by decide)
  · intro h
    have hkept := h (tabSteps 4) "%ul\n\t%li" (by decide) (by decide) (hends "ul\n\t%l".toList)
      (by decide) (by decide)
    exact absurd hkept (by decide)

end HamlServer.Correct
