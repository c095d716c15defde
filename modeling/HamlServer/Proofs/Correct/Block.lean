import HamlServer.Proofs.Correct.Line

/-!
# Filter blocks of corrected lines

Correcting lines a second time finds the filter blocks of the first time again, and may find more: a
filter line with white space at its end opens a block only when that is gone.  A block may also open
less deep, because its opening line was moved to the left.  `Covers` says what is known of the block
open in front of a line, the first time and the second time.

* `covers_stillOpen`, `covers_openedBy`: one line goes by.
* `fixLines_fixLines`: corrected lines stay as they are.
* `forall₂_fixLines`: lines are corrected one by one.
-/

namespace HamlServer.Correct

open Text

variable {c : LintConfig} {rule : LineRule} {line s : List Char} {ls : List (List Char)}
  {block inner outer : Option Nat} {n d : Nat}

/-! ## Filter lines -/

theorem isFilterLine_iff : isFilterLine s = true ↔
    ∃ name, trimStart s = ':' :: name ∧ name ≠ [] ∧ ∀ x ∈ name, isWordChar x = true := by
  rw [isFilterLine]
  split
  · next name hs => simp [hs]
  · next hno =>
    refine iff_of_false Bool.false_ne_true ?_
    rintro ⟨name, hs, -⟩
    exact hno name hs

theorem endsInk_of_isFilterLine (h : isFilterLine s = true) : EndsInk s := by
  obtain ⟨name, hs, hne, hname⟩ := isFilterLine_iff.1 h
  have hends : EndsInk name := endsInk_of_forall hne fun x hx =>
    isBlank_of_isWordChar (hname x hx)
  rw [← endsInk_trimStart, hs]
  exact hends.append [':']

theorem not_isBlankText_of_isFilterLine (h : isFilterLine s = true) : isBlankText s = false := by
  refine Bool.eq_false_iff.2 fun hblank => ?_
  obtain ⟨name, hs, -⟩ := isFilterLine_iff.1 h
  rw [(trimStart_eq_nil_iff s).2 hblank] at hs
  cases hs

/-- A line without tabs that opens a filter block of at most a given depth. -/
structure Opens (n : Nat) (s : List Char) : Prop where
  filter : isFilterLine s = true
  noTab : '\t' ∉ s
  depth : depth s ≤ n

/-- A filter line goes only to the left. -/
theorem opens_fix (hspaces : usesSpaces c = true) (rule : LineRule) (h : Opens n s) :
    Opens n (rule.fix c s) := by
  obtain ⟨name, hs, -⟩ := isFilterLine_iff.1 h.filter
  have hsame {f : List Char → List Char} (hf : f s = s) : Opens n (f s) := hf.symm ▸ h
  cases rule with
  | trailingWhitespace => exact hsame (endsInk_of_isFilterLine h.filter).trimEnd_eq
  | classesBeforeIds => exact hsame ((marked_orderSegments _).eq_self_of_notMem hs (by decide))
  | spaceBeforeScript => exact hsame (marked_spaceScript.eq_self_of_notMem hs (by decide))
  | leadingCommentSpace => exact hsame (marked_spaceComment.eq_self_of_notMem hs (by decide))
  | htmlAttributes => exact hsame (marked_hashAttributes.eq_self_of_notMem hs (by decide))
  | indentation =>
    rw [LineRule.fix, hspaces]
    refine ⟨?_, fun hmem => ?_, (depth_normalizeIndent_le h.noTab _).trans h.depth⟩
    · rw [isFilterLine, trimStart_normalizeIndent]
      exact h.filter
    · rcases mem_normalizeIndent hmem with he | hmem
      · cases he
      · exact h.noTab hmem

/-! ## Blocks -/

/-- Where the one block is open, the other one is, and not deeper. -/
def Covers (inner outer : Option Nat) : Prop := ∀ d ∈ inner, ∃ d' ∈ outer, d' ≤ d

theorem covers_refl (block : Option Nat) : Covers block block := fun d hd => ⟨d, hd, Nat.le_refl d⟩

theorem mem_stillOpen : d ∈ stillOpen block line ↔
    d ∈ block ∧ (isBlankText line = true ∨ d < depth line) := by
  simp [stillOpen, Option.filter_eq_some_iff]

theorem fixLine_true_cases (c : LintConfig) (s : List Char) :
    fixLine c true s = s ∨ fixLine c true s = trimLine s := by
  refine fixLine_induction (P := fun s' => s' = s ∨ s' = trimLine s) (Or.inl rfl)
    fun rule happ s' hs' => ?_
  rw [happ.2 rfl, LineRule.fix]
  rcases hs' with rfl | rfl
  · exact Or.inr rfl
  · exact Or.inr (trimLine_idempotent s)

/-- A block that goes on with a line goes on with the corrected one. -/
theorem covers_stillOpen (h : Covers inner outer) (line : List Char) :
    Covers (stillOpen inner line)
      (stillOpen outer (fixLine c (stillOpen inner line).isSome line)) := by
  intro d hd
  obtain ⟨hinner, hline⟩ := mem_stillOpen.1 hd
  obtain ⟨d', houter, hle⟩ := h d hinner
  refine ⟨d', mem_stillOpen.2 ⟨houter, ?_⟩, hle⟩
  rw [Option.isSome_of_mem hd]
  rcases fixLine_true_cases c line with he | he
  · rw [he]
    exact hline.imp_right fun hlt => Nat.lt_of_le_of_lt hle hlt
  · rw [he, trimLine]
    rcases hline with hblank | hlt
    · exact Or.inl (isBlankText_trimEnd hblank)
    · rcases trimEnd_eq_nil_or_leading_trimEnd line with hnil | hlead
      · rw [hnil]
        exact Or.inl rfl
      · rw [depth, hlead]
        exact Or.inr (Nat.lt_of_le_of_lt hle hlt)

/-- A block that a line opens is open behind the corrected one. -/
theorem covers_openedBy (hspaces : usesSpaces c = true) (htab : '\t' ∉ line)
    (h : Covers inner (stillOpen outer (fixLine c inner.isSome line))) :
    Covers (openedBy inner line)
      (openedBy (stillOpen outer (fixLine c inner.isSome line)) (fixLine c inner.isSome line)) := by
  cases inner with
  | some d₁ =>
    intro d hd
    obtain ⟨d', hd', hle⟩ := h d hd
    rw [Option.mem_def.1 hd']
    exact ⟨d', rfl, hle⟩
  | none =>
    intro d hd
    rw [openedBy] at hd
    split at hd
    · next hfilter =>
      obtain rfl := Option.some.inj hd
      have hopens : Opens (depth line) (fixLine c false line) :=
        fixLine_induction ⟨hfilter, htab, Nat.le_refl _⟩ fun rule _ _ => opens_fix hspaces rule
      rw [Option.isSome_none]
      cases hopen : stillOpen outer (fixLine c false line) with
      | none =>
        rw [openedBy, if_pos hopens.filter]
        exact ⟨_, rfl, hopens.depth⟩
      | some d' =>
        -- the block was opened less deep than the filter line stands
        have hlt := (mem_stillOpen.1 (Option.mem_def.2 hopen)).2.resolve_left
          (by simp [not_isBlankText_of_isFilterLine hopens.filter])
        exact ⟨d', rfl, (Nat.le_of_lt hlt).trans hopens.depth⟩
    · cases hd

/-! ## Lines one after the other -/

/-- Corrected lines stay as they are, as long as the blocks found the second time cover those that
were found the first time. -/
theorem fixLines_fixLines (hspaces : usesSpaces c = true) (h : Covers inner outer)
    (htab : ∀ l ∈ ls, '\t' ∉ l) : fixLines c outer (fixLines c inner ls) = fixLines c inner ls := by
  induction ls generalizing inner outer with
  | nil => rfl
  | cons line ls ih =>
    rw [List.forall_mem_cons] at htab
    have hstill := covers_stillOpen (c := c) h line
    have hopened := covers_openedBy hspaces htab.1 hstill
    have hfilter (hb : (stillOpen inner line).isSome = true) :
        (stillOpen outer (fixLine c (stillOpen inner line).isSome line)).isSome = true := by
      obtain ⟨d, hd⟩ := Option.isSome_iff_exists.1 hb
      obtain ⟨d', hd', -⟩ := hstill d hd
      exact Option.isSome_of_mem hd'
    rw [fixLines, fixLines, fixLine_fixLine hfilter, ih hopened htab.2]

/-- Lines are corrected one by one. -/
theorem forall₂_fixLines (c : LintConfig) (block : Option Nat) (ls : List (List Char)) :
    List.Forall₂ (fun out line => ∃ inFilter, out = fixLine c inFilter line)
      (fixLines c block ls) ls := by
  induction ls generalizing block with
  | nil => exact .nil
  | cons line ls ih => exact .cons ⟨_, rfl⟩ (ih _)

theorem mem_fixLines {out : List Char} (h : out ∈ fixLines c block ls) :
    ∃ line ∈ ls, ∃ inFilter, out = fixLine c inFilter line := by
  induction ls generalizing block with
  | nil => cases h
  | cons line ls ih =>
    rw [fixLines, List.mem_cons] at h
    rcases h with rfl | h
    · exact ⟨line, List.mem_cons_self, _, rfl⟩
    · obtain ⟨line', hline, hout⟩ := ih h
      exact ⟨line', List.mem_cons_of_mem _ hline, hout⟩

theorem fixLines_concat (c : LintConfig) (block : Option Nat) (ls : List (List Char))
    (line : List Char) :
    ∃ out inFilter, fixLines c block (ls ++ [line]) = out ++ [fixLine c inFilter line] := by
  induction ls generalizing block with
  | nil => exact ⟨[], _, rfl⟩
  | cons first ls ih =>
    obtain ⟨out, inFilter, h⟩ := ih (openedBy (stillOpen block first) first)
    exact ⟨fixLine c (stillOpen block first).isSome first :: out, inFilter,
      by rw [List.cons_append, fixLines, h, List.cons_append]⟩

end HamlServer.Correct
