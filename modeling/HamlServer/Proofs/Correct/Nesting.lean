import HamlServer.Proofs.Correct.FilterBlock

/-!
# Nesting of corrected lines

The indentation of a line is what the tree of elements hangs on.  Corrections other than the one of
the indentation leave it alone, and that one rounds it down to whole steps, each line for itself.
So lines never change the order of their indentations, but a line that is deeper than another by
less than a step may end up beside it.

* `LineRule.keepsFront_fix`: the other corrections keep what stands in front of a line.
* `exists_fixLine_eq`: a corrected line is one with its indentation brought to whole steps.
* `indentation_fixLine`: the indentation of a corrected line.
* `indentation_correctString`: two lines of a corrected document.
-/

namespace HamlServer.Correct

open Text

variable {c : LintConfig} {rule : LineRule} {a s t : List Char}

/-- The number of spaces and tabs in front of a line. -/
def indentation (line : List Char) : Nat := (line.takeWhile isIndent).length

theorem takeWhile_isIndent_leading (s : List Char) :
    (leading s).takeWhile isIndent = s.takeWhile isIndent := by
  rw [leading, List.takeWhile_takeWhile]
  congr 1
  funext x
  rw [Bool.eq_iff_iff, decide_eq_true_iff]
  exact and_iff_left_of_imp isBlank_of_isIndent

/-- The indentation of a line is the front of the white space that it starts with. -/
theorem takeWhile_isIndent_of_leading {b : List Char} (h : leading a = leading b) :
    a.takeWhile isIndent = b.takeWhile isIndent := by
  rw [← takeWhile_isIndent_leading a, h, takeWhile_isIndent_leading]

/-! ## Lines that are not blank -/

theorem startsInk_trimStart_of_not_blank (h : isBlankText s = false) : StartsInk (trimStart s) := by
  refine (trimStart_eq_nil_or_startsInk s).resolve_left fun hnil => ?_
  rw [trimStart_eq_nil_iff, h] at hnil
  cases hnil

/-- What a function of lines keeps: a line that is not blank does not get blank, and the white space
in front of it stays. -/
def KeepsFront (f : List Char → List Char) : Prop :=
  ∀ s, isBlankText s = false → isBlankText (f s) = false ∧ leading (f s) = leading s

/-- A function that works behind the white space in front of a line keeps that. -/
theorem keepsFront_of_append {f : List Char → List Char}
    (happend : ∀ a t, isBlankText a = true → StartsInk t → f (a ++ t) = a ++ f t)
    (hstart : ∀ t, StartsInk t → StartsInk (f t)) : KeepsFront f := by
  intro s hs
  have hbody : StartsInk (trimStart s) := startsInk_trimStart_of_not_blank hs
  have hf : f s = leading s ++ f (trimStart s) := by
    conv_lhs => rw [← leading_append_trimStart s]
    exact happend _ _ (isBlankText_leading s) hbody
  obtain ⟨x, r, ht, hx⟩ := (hstart _ hbody).exists_cons
  rw [hf, ht]
  constructor
  · simp [isBlankText, hx]
  · rw [leading_append (isBlankText_leading s), (startsInk_cons.2 hx).leading_eq, List.append_nil]

theorem trimEnd_append_of_startsInk (a : List Char) (h : StartsInk t) :
    trimEnd (a ++ t) = a ++ trimEnd t := by
  obtain ⟨b, hb, ht⟩ := exists_trimEnd_append t
  have hends : EndsInk (trimEnd t) :=
    (trimEnd_eq_nil_or_endsInk t).resolve_left h.trimEnd.ne_nil
  calc trimEnd (a ++ t) = trimEnd (a ++ trimEnd t ++ b) := by rw [List.append_assoc, ht]
    _ = trimEnd (a ++ trimEnd t) := trimEnd_append hb
    _ = a ++ trimEnd t := (hends.append a).trimEnd_eq

theorem stripReturn_append (a : List Char) (h : t ≠ []) :
    stripReturn (a ++ t) = a ++ stripReturn t := by
  unfold stripReturn dropLast?
  rw [List.getLast?_append_of_ne_nil a h, List.dropLast_append_of_ne_nil h]
  split_ifs
  · rfl
  · rfl

theorem keepsFront_stripReturn : KeepsFront stripReturn :=
  keepsFront_of_append (fun a _ _ ht => stripReturn_append a ht.ne_nil)
    fun _ => startsInk_stripReturn

/-- The other corrections keep what stands in front of a line. -/
theorem LineRule.keepsFront_fix (hne : rule ≠ .indentation) (c : LintConfig) :
    KeepsFront (rule.fix c) := by
  refine keepsFront_of_append (fun a t ha ht => ?_) fun t => rule.startsInk_fix
  cases rule with
  | trailingWhitespace => exact trimEnd_append_of_startsInk a ht
  | classesBeforeIds => exact (marked_orderSegments _).indented a t ha
  | spaceBeforeScript => exact marked_spaceScript.indented a t ha
  | leadingCommentSpace => exact marked_spaceComment.indented a t ha
  | htmlAttributes => exact marked_hashAttributes.indented a t ha
  | indentation => exact absurd rfl hne

/-- The corrections in front of the last one. -/
theorem keepsFront_foldl {rules : List LineRule} (hrules : .indentation ∉ rules) (c : LintConfig)
    (inFilter : Bool) :
    KeepsFront fun s => rules.foldl (fun s rule => rule.apply c inFilter s) s := by
  intro s hs
  refine List.foldlRecOn (motive := fun s' => isBlankText s' = false ∧ leading s' = leading s)
    rules _ ⟨hs, rfl⟩ fun s' hs' rule hrule => ?_
  by_cases happ : rule.Applies c inFilter
  · have hne : rule ≠ .indentation := fun he => hrules (he ▸ hrule)
    obtain ⟨hblank, hlead⟩ := LineRule.keepsFront_fix hne c s' hs'.1
    rw [LineRule.apply_of_applies happ]
    exact ⟨hblank, hlead.trans hs'.2⟩
  · rwa [LineRule.apply_of_not_applies happ]

/-- The correction of the indentation comes last, and finds the front of the line as it was. -/
theorem exists_fixLine_eq (henabled : c.isEnabled "Indentation" = true) (s : List Char) :
    ∃ front, fixLine c false s = normalizeIndent (indentWidth c) (usesSpaces c) front ∧
      (isBlankText s = false → isBlankText front = false ∧ leading front = leading s) := by
  let front := LineRule.all.dropLast.foldl (fun s rule => rule.apply c false s) s
  have happ : LineRule.indentation.Applies c false := ⟨henabled, nofun⟩
  refine ⟨front, ?_, keepsFront_foldl (by decide) c false s⟩
  show LineRule.indentation.apply c false front = _
  rw [LineRule.apply_of_applies happ, LineRule.fix]

/-! ## Rounding down -/

theorem columns_of_notMem (w : Nat) (h : '\t' ∉ s) : columns w s = s.length := by
  induction s with
  | nil => rfl
  | cons x s ih =>
    rw [List.mem_cons, not_or] at h
    rw [columns, if_neg (Ne.symm h.1), ih h.2, List.length_cons, Nat.add_comm]

/-- Without tabs, an indentation is rounded down to a multiple of the width of a step. -/
theorem indentation_normalizeIndent (htab : '\t' ∉ s.takeWhile isIndent) (w : Nat) :
    indentation (normalizeIndent w true s) = indentation s / w * w := by
  have hindent : (normalizeIndent w true s).takeWhile isIndent =
      indentOf w true (indentation s / w) := by
    rw [normalizeIndent_eq, columns_of_notMem w htab,
      takeWhile_append_of_stop (dropWhile_stop isIndent s), ← indentation,
      List.takeWhile_eq_self_iff]
    exact fun _ hx => isIndent_of_mem_indentOf hx
  rw [indentation, hindent, indentOf, if_pos rfl, List.length_replicate]

/-- A line outside of filter blocks is indented by whole steps, rounded down. -/
theorem indentation_fixLine (henabled : c.isEnabled "Indentation" = true)
    (hspaces : usesSpaces c = true) (hblank : isBlankText s = false) (htab : '\t' ∉ s) :
    indentation (stripReturn (fixLine c false s)) =
      indentation s / indentWidth c * indentWidth c := by
  obtain ⟨front, hfix, hkept⟩ := exists_fixLine_eq henabled s
  obtain ⟨hfront, hlead⟩ := hkept hblank
  rw [hspaces] at hfix
  have hindent : front.takeWhile isIndent = s.takeWhile isIndent :=
    takeWhile_isIndent_of_leading hlead
  have hrest : isBlankText (fixLine c false s) = false := by
    rw [Bool.eq_false_iff, hfix, ne_eq, ← trimStart_eq_nil_iff, trimStart_normalizeIndent]
    exact (startsInk_trimStart_of_not_blank hfront).ne_nil
  have htab' : '\t' ∉ front.takeWhile isIndent := by
    rw [hindent]
    exact fun hmem => htab ((List.takeWhile_sublist _).mem hmem)
  calc indentation (stripReturn (fixLine c false s))
      = indentation (fixLine c false s) := by
        unfold indentation
        rw [takeWhile_isIndent_of_leading (keepsFront_stripReturn _ hrest).2]
    _ = indentation front / indentWidth c * indentWidth c := by
        rw [hfix, indentation_normalizeIndent htab']
    _ = indentation s / indentWidth c * indentWidth c := by
        unfold indentation
        rw [hindent]

/-! ## Documents -/

/-- The lines of a corrected document, cut at a line that lies in no filter block. -/
theorem docLines_correctString_split {c : LintConfig} {s : String} {above below : List (List Char)}
    {line : List Char} (hlines : docLines (sanitize s.toList) = above ++ line :: below)
    (hout : ¬ InFilterBlock above line) :
    docLines (withoutFinalNewline (correctString c s).toList) =
      (fixLines c none above).map stripReturn ++ stripReturn (fixLine c false line) ::
        (fixLines c (blockBehind none (above ++ [line])) below).map stripReturn := by
  rw [correctString, String.toList_ofList, docLines_withoutFinalNewline_correct, hlines,
    fixLines_split hout, List.map_append, List.map_cons]

/-- Of two lines of a document that lie in no filter block, the one that is indented deeper comes
out of the corrections at least as deep as the other, and deeper exactly if it has more whole steps
in front of it. -/
theorem indentation_correctString (henabled : c.isEnabled "Indentation" = true)
    (hspaces : usesSpaces c = true) {s : String} {above between below : List (List Char)}
    {earlier later : List Char}
    (hlines : docLines (sanitize s.toList) = above ++ earlier :: (between ++ later :: below))
    (hearlier : isBlankText earlier = false) (hlater : isBlankText later = false)
    (hout : ¬ InFilterBlock above earlier)
    (hout' : ¬ InFilterBlock (above ++ earlier :: between) later)
    (hdeeper : indentation earlier < indentation later) :
    ∃ above' earlier' between' later' below',
      docLines (withoutFinalNewline (correctString c s).toList) =
        above' ++ earlier' :: (between' ++ later' :: below') ∧
      above'.length = above.length ∧ between'.length = between.length ∧
      indentation earlier' ≤ indentation later' ∧
      (indentation earlier' < indentation later' ↔
        indentation earlier / indentWidth c < indentation later / indentWidth c) := by
  have htab {line : List Char} (h : line ∈ docLines (sanitize s.toList)) : '\t' ∉ line :=
    fun hmem => tab_notMem_sanitize s.toList (mem_of_mem_docLines h hmem)
  have hearlier' := indentation_fixLine henabled hspaces hearlier (htab (by simp [hlines]))
  have hlater' := indentation_fixLine henabled hspaces hlater (htab (by simp [hlines]))
  have hlines' :
      docLines (sanitize s.toList) = (above ++ earlier :: between) ++ later :: below := by
    simp [hlines]
  have hsplit := docLines_correctString_split (c := c) hlines' hout'
  rw [fixLines_split hout, List.map_append, List.map_cons, List.append_assoc,
    List.cons_append] at hsplit
  refine ⟨_, _, _, _, _, hsplit, ?_, ?_, ?_, ?_⟩
  · rw [List.length_map, length_fixLines]
  · rw [List.length_map, length_fixLines]
  · rw [hearlier', hlater']
    exact Nat.mul_le_mul_right _ (Nat.div_le_div_right (Nat.le_of_lt hdeeper))
  · rw [hearlier', hlater']
    exact Nat.mul_lt_mul_right (indentWidth_pos c)

/-- A line below an element and a comment, with a script in between that lies in a filter block. -/
theorem indentation_correctString_nested :
    let s := " %ul\n   -#c\n     :css\n       a\n     %li"
    let between := ["   -#c", "     :css", "       a"].map String.toList
    LintConfig.default.isEnabled "Indentation" = true ∧ usesSpaces .default = true ∧
      docLines (sanitize s.toList) =
        [] ++ "%ul".toList :: (between ++ "     %li".toList :: []) ∧
      isBlankText "%ul".toList = false ∧ isBlankText "     %li".toList = false ∧
      ¬ InFilterBlock [] "%ul".toList ∧
      ¬ InFilterBlock ([] ++ "%ul".toList :: between) "     %li".toList ∧
      indentation "%ul".toList < indentation "     %li".toList ∧
      ∃ above' earlier' between' later' below',
        docLines (withoutFinalNewline (correctString .default s).toList) =
          above' ++ earlier' :: (between' ++ later' :: below') ∧
        above'.length = 0 ∧ between'.length = 3 ∧
        indentation earlier' ≤ indentation later' ∧
        (indentation earlier' < indentation later' ↔ 0 / 2 < 5 / 2) := by
  intro s between
  have henabled : LintConfig.default.isEnabled "Indentation" = true := by decide
  have hspaces : usesSpaces .default = true := by decide
  have hlines : docLines (sanitize s.toList) =
      [] ++ "%ul".toList :: (between ++ "     %li".toList :: []) := by decide
  have hearlier : isBlankText "%ul".toList = false := by decide
  have hlater : isBlankText "     %li".toList = false := by decide
  have hout : ¬ InFilterBlock [] "%ul".toList := by decide
  have hout' : ¬ InFilterBlock ([] ++ "%ul".toList :: between) "     %li".toList := by decide
  have hdeeper : indentation "%ul".toList < indentation "     %li".toList := by decide
  exact ⟨henabled, hspaces, hlines, hearlier, hlater, hout, hout', hdeeper,
    indentation_correctString henabled hspaces hlines hearlier hlater hout hout' hdeeper⟩

/-- Less than a step is rounded away: a line under another one ends up beside it. -/
theorem not_indentation_correctString_of_step :
    ¬ ∀ (c : LintConfig) (s : String) (above between below : List (List Char))
      (earlier later : List Char),
      c.isEnabled "Indentation" = true → usesSpaces c = true →
      docLines (sanitize s.toList) = above ++ earlier :: (between ++ later :: below) →
      isBlankText earlier = false → isBlankText later = false →
      ¬ InFilterBlock above earlier → ¬ InFilterBlock (above ++ earlier :: between) later →
      indentation earlier < indentation later →
      (∀ l ∈ between, indentation earlier < indentation l) →
      ∃ above' earlier' between' later' below',
        docLines (withoutFinalNewline (correctString c s).toList) =
          above' ++ earlier' :: (between' ++ later' :: below') ∧
        above'.length = above.length ∧ between'.length = between.length ∧
        indentation earlier' < indentation later' := by
  intro h
  obtain ⟨above', earlier', between', later', below', hout, habove, hbetween, hlt⟩ :=
    h .default "%ul\n %li" [] [] [] "%ul".toList " %li".toList (by decide) (by decide) (by decide)
      (by decide) (by decide) (by decide) (by decide) (by decide) (by decide)
  have hlines : docLines (withoutFinalNewline (correctString .default "%ul\n %li").toList) =
      ["%ul".toList, "%li".toList] := by decide
  obtain rfl : above' = [] := List.length_eq_zero_iff.1 habove
  obtain rfl : between' = [] := List.length_eq_zero_iff.1 hbetween
  rw [hlines] at hout
  obtain ⟨rfl, hrest⟩ := List.cons_eq_cons.1 hout
  obtain ⟨rfl, -⟩ := List.cons_eq_cons.1 hrest
  exact absurd hlt (by decide)

end HamlServer.Correct
