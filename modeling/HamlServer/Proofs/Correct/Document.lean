import HamlServer.Proofs.Correct.Block

/-!
# Correcting a document twice

A document is trimmed before its lines are corrected, and correcting them leaves it trimmed.  So the
end of the document is either left as it is or gets a line feed, and when the document is corrected
again, the lines are found as they were left.

* `correct_eq`: the corrected lines, and perhaps a line feed behind them.
* `correctString_correctString`: correcting a document twice is correcting it once.
-/

namespace HamlServer.Correct

open Text

variable {c : LintConfig} {x : Char} {b s : List Char}

/-! ## Before the lines are corrected -/

/-- What a character is spread to. -/
def spreadTab (x : Char) : List Char := if x = '\t' then [' ', ' '] else [x]

theorem spreadTab_of_ne (h : x ≠ '\t') : spreadTab x = [x] := if_neg h

theorem mem_spreadTab {y : Char} (h : y ∈ spreadTab x) : y = ' ' ∨ y = x ∧ x ≠ '\t' := by
  rw [spreadTab] at h
  split at h
  · exact Or.inl (by simpa using h)
  · next hne => exact Or.inr ⟨List.mem_singleton.1 h, hne⟩

/-- Where there is no tab, nothing is spread. -/
theorem flatMap_spreadTab_of_notMem (h : '\t' ∉ s) : s.flatMap spreadTab = s :=
  calc s.flatMap spreadTab = s.flatMap fun x => [x] :=
        List.flatMap_congr fun _ hx => spreadTab_of_ne fun he => h (he ▸ hx)
    _ = s := List.flatMap_singleton' s

theorem sanitize_eq (s : List Char) : sanitize s = (trim s).flatMap spreadTab := rfl

theorem tab_notMem_sanitize (s : List Char) : '\t' ∉ sanitize s := by
  rw [sanitize_eq, List.mem_flatMap]
  rintro ⟨x, -, hx⟩
  rcases mem_spreadTab hx with h | ⟨h, hne⟩
  · cases h
  · exact hne h.symm

theorem trimmed_sanitize (s : List Char) : Trimmed (sanitize s) := by
  have hne {x : Char} (hx : isBlank x = false) : x ≠ '\t' := by
    rintro rfl
    cases hx
  rw [sanitize_eq]
  rcases trimmed_trim s with h | ⟨hstart, hends⟩
  · rw [h]
    exact Or.inl rfl
  · refine Or.inr ⟨?_, ?_⟩
    · obtain ⟨x, r, hs, hx⟩ := hstart.exists_cons
      rw [hs, List.flatMap_cons, spreadTab_of_ne (hne hx)]
      exact startsInk_cons.2 hx
    · obtain ⟨r, x, hs, hx⟩ := hends.exists_concat
      rw [hs, List.flatMap_append, List.flatMap_singleton, spreadTab_of_ne (hne hx)]
      exact endsInk_concat.2 hx

/-- White space behind a trimmed document without tabs is all that goes. -/
theorem sanitize_append (h : Trimmed s) (htab : '\t' ∉ s) (hb : isBlankText b = true) :
    sanitize (s ++ b) = s := by
  rw [sanitize_eq, h.trim_append hb, flatMap_spreadTab_of_notMem htab]

/-! ## The lines -/

/-- A document with its lines corrected. -/
def correctLines (c : LintConfig) (s : List Char) : List Char :=
  joinLines (fixLines c none (docLines s))

theorem trimmed_correctLines (c : LintConfig) (h : Trimmed s) : Trimmed (correctLines c s) := by
  rw [correctLines]
  rcases h with rfl | ⟨hstart, hends⟩
  · refine Or.inl ?_
    show joinLines [fixLine c false []] = []
    rw [joinLines_singleton, fixLine_nil]
  · refine Or.inr ⟨?_, ?_⟩
    · obtain ⟨l, ls, hs, hl⟩ := startsInk_head_docLines hstart
      rw [hs, fixLines, startsInk_joinLines]
      exact startsInk_fixLine c _ hl
    · obtain ⟨ls, l, hs, hl⟩ := endsInk_getLast_docLines hends
      obtain ⟨out, inFilter, hout⟩ := fixLines_concat c none ls l
      rw [hs, hout, endsInk_joinLines]
      exact endsInk_fixLine c inFilter hl

theorem fixLines_ne_nil (c : LintConfig) (s : List Char) : fixLines c none (docLines s) ≠ [] := by
  obtain ⟨l, ls, hs⟩ := List.exists_cons_of_ne_nil (docLines_ne_nil s)
  rw [hs, fixLines]
  exact List.cons_ne_nil _ _

/-- The pieces between the line feeds of a document with its lines corrected. -/
theorem splitOn_correctLines (c : LintConfig) (s : List Char) :
    (correctLines c s).splitOn '\n' = fixLines c none (docLines s) := by
  refine List.splitOn_intercalate '\n' (fun out hout => ?_) (fixLines_ne_nil c s)
  obtain ⟨line, hline, inFilter, rfl⟩ := mem_fixLines hout
  refine notMem_fixLine (lineFeed_notMem_docLines hline) (by decide) ?_
  rw [stepChar]
  split <;> decide

/-- The lines of a document with its lines corrected. -/
theorem docLines_correctLines (c : LintConfig) (s : List Char) :
    docLines (correctLines c s) = (fixLines c none (docLines s)).map stripReturn := by
  rw [docLines, splitOn_correctLines]

/-- A line without white space at its end has no carriage return there. -/
theorem docLines_correctLines_of_trim (htrim : c.isEnabled "TrailingWhitespace" = true)
    (s : List Char) : docLines (correctLines c s) = fixLines c none (docLines s) := by
  rw [docLines_correctLines]
  refine (List.map_congr_left fun out hout => ?_).trans (List.map_id _)
  obtain ⟨line, -, inFilter, rfl⟩ := mem_fixLines hout
  rcases trimEnd_eq_self_iff.1 (trimLine_fixLine htrim inFilter line) with hnil | hends
  · rw [hnil]
    rfl
  · exact stripReturn_of_endsInk hends

theorem tab_notMem_correctLines (hspaces : usesSpaces c = true) (htab : '\t' ∉ s) :
    '\t' ∉ correctLines c s := by
  intro hmem
  rcases mem_intercalate hmem with h | ⟨out, hout, h⟩
  · exact absurd h (by decide)
  · obtain ⟨line, hline, inFilter, rfl⟩ := mem_fixLines hout
    refine notMem_fixLine (fun hm => htab (mem_of_mem_docLines hline hm)) (by decide) ?_ h
    rw [hspaces]
    decide

theorem correctLines_correctLines (htrim : c.isEnabled "TrailingWhitespace" = true)
    (hspaces : usesSpaces c = true) (htab : '\t' ∉ s) :
    correctLines c (correctLines c s) = correctLines c s := by
  rw [correctLines, docLines_correctLines_of_trim htrim,
    fixLines_fixLines hspaces (covers_refl none)
      fun l hl hm => htab (mem_of_mem_docLines hl hm), ← correctLines]

/-! ## The end -/

/-- What is put behind the last line. -/
def finalNewline (c : LintConfig) : List Char :=
  if c.isEnabled "FinalNewline" then
    if (c.bool? "FinalNewline" "present").getD true then ['\n'] else []
  else []

theorem isBlankText_finalNewline (c : LintConfig) : isBlankText (finalNewline c) = true := by
  rw [finalNewline]
  split_ifs <;> rfl

theorem fixEnd_of_trimmed (c : LintConfig) (h : Trimmed s) : fixEnd c s = s ++ finalNewline c := by
  have htrim : trimEnd s = s := trimEnd_eq_self_iff.2 (h.imp_right And.right)
  rw [fixEnd, htrim, ite_self, withFinalNewline, if_neg h.getLast?_ne_lineFeed, htrim, finalNewline]
  split_ifs
  · rfl
  · rw [List.append_nil]
  · rw [List.append_nil]

/-- A corrected document consists of its corrected lines, and perhaps a line feed behind them. -/
theorem correct_eq (c : LintConfig) (s : List Char) :
    correct c s = correctLines c (sanitize s) ++ finalNewline c :=
  fixEnd_of_trimmed c (trimmed_correctLines c (trimmed_sanitize s))

/-! ## Once more -/

theorem correct_correct (htrim : c.isEnabled "TrailingWhitespace" = true)
    (hspaces : usesSpaces c = true) (s : List Char) : correct c (correct c s) = correct c s := by
  have htab := tab_notMem_sanitize s
  have hagain : sanitize (correct c s) = correctLines c (sanitize s) := by
    rw [correct_eq]
    exact sanitize_append (trimmed_correctLines c (trimmed_sanitize s))
      (tab_notMem_correctLines hspaces htab) (isBlankText_finalNewline c)
  rw [correct_eq c (correct c s), hagain, correctLines_correctLines htrim hspaces htab,
    ← correct_eq]

/-- Correcting a document twice is correcting it once, when lines lose the white space at their end
and indentation is made of spaces. -/
theorem correctString_correctString (htrim : c.isEnabled "TrailingWhitespace" = true)
    (hspaces : usesSpaces c = true) (s : String) :
    correctString c (correctString c s) = correctString c s := by
  rw [correctString, correctString, String.toList_ofList, correct_correct htrim hspaces]

/-- The built-in configuration on a document with tabs, a blank-ended line and attributes. -/
theorem correctString_correctString_default :
    LintConfig.default.isEnabled "TrailingWhitespace" = true ∧
      usesSpaces LintConfig.default = true ∧
      correctString .default (correctString .default
          "\t#main.container  \n   =foo\n\t\t-#c\n%p(title=\"t\" data-x='1')\n\n\n") =
        correctString .default
          "\t#main.container  \n   =foo\n\t\t-#c\n%p(title=\"t\" data-x='1')\n\n\n" :=
  ⟨by decide, by decide, correctString_correctString (by decide) (by decide) _⟩

end HamlServer.Correct
