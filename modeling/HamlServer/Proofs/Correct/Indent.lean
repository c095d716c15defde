import HamlServer.Correct.Document
import HamlServer.Proofs.Correct.Body
import HamlServer.Proofs.Text.Utf8
import Mathlib.Data.List.TakeWhile

/-!
# Indentation in whole steps

Bringing an indentation to whole steps replaces white space in front of a line by other white space.
The line keeps its ink, and any correction that works behind the indentation keeps its result.

* `normalizeIndent_idempotent`: an indentation in whole steps stays as it is.
* `Marked.keeps_normalizeIndent`
* `depth_normalizeIndent_le`: rounding down an indentation of spaces does not make it deeper.
-/

namespace HamlServer.Correct

open Text

variable {w k : Nat} {spaces : Bool} {c : Char} {s : List Char}

/-- The character that steps are made of. -/
def stepChar (spaces : Bool) : Char := if spaces then ' ' else '\t'

theorem isBlank_of_isIndent (h : isIndent c = true) : isBlank c = true := by
  rw [isIndent, Bool.or_eq_true, beq_iff_eq, beq_iff_eq] at h
  rcases h with rfl | rfl
  · rfl
  · rfl

theorem isBlankText_indent (s : List Char) : isBlankText (s.takeWhile isIndent) = true :=
  List.all_eq_true.2 fun _ hc =>
    isBlank_of_isIndent (List.all_eq_true.1 List.all_takeWhile _ hc)

/-! ## Steps -/

theorem eq_stepChar_of_mem_indentOf (h : c ∈ indentOf w spaces k) : c = stepChar spaces := by
  cases spaces with
  | false => exact List.eq_of_mem_replicate h
  | true => exact List.eq_of_mem_replicate h

theorem isIndent_of_mem_indentOf (h : c ∈ indentOf w spaces k) : isIndent c = true := by
  rw [eq_stepChar_of_mem_indentOf h]
  cases spaces with
  | false => rfl
  | true => rfl

theorem isBlankText_indentOf (w : Nat) (spaces : Bool) (k : Nat) :
    isBlankText (indentOf w spaces k) = true :=
  List.all_eq_true.2 fun _ hc => isBlank_of_isIndent (isIndent_of_mem_indentOf hc)

theorem columns_replicate (w n : Nat) (c : Char) :
    columns w (List.replicate n c) = n * (if c = '\t' then w else 1) := by
  induction n with
  | zero => rw [Nat.zero_mul]; rfl
  | succ n ih => rw [List.replicate_succ, columns, ih, Nat.succ_mul, Nat.add_comm]

/-- So many steps take up so many times the width of one. -/
theorem columns_indentOf (w : Nat) (spaces : Bool) (k : Nat) :
    columns w (indentOf w spaces k) = k * w := by
  cases spaces with
  | false => rw [indentOf, if_neg Bool.false_ne_true, columns_replicate, if_pos rfl]
  | true => rw [indentOf, if_pos rfl, columns_replicate, if_neg (by decide), Nat.mul_one]

/-! ## Whole steps -/

/-- The indentation of a line is replaced, and what stands behind it stays. -/
theorem normalizeIndent_eq (w : Nat) (spaces : Bool) (s : List Char) :
    normalizeIndent w spaces s =
      indentOf w spaces (columns w (s.takeWhile isIndent) / w) ++ s.dropWhile isIndent := by
  rw [normalizeIndent]
  split
  · next hnone =>
    have hs := List.takeWhile_append_dropWhile (p := isIndent) (l := s)
    rw [hnone, List.nil_append] at hs
    rw [hnone, columns, Nat.zero_div, hs, indentOf, Nat.zero_mul]
    split <;> rfl
  · rw [drop_length_takeWhile]

theorem normalizeIndent_indentOf (hw : 0 < w) (hs : ∀ c ∈ s.head?, isIndent c = false) :
    normalizeIndent w spaces (indentOf w spaces k ++ s) = indentOf w spaces k ++ s := by
  have hindent : (indentOf w spaces k ++ s).takeWhile isIndent = indentOf w spaces k := by
    rw [takeWhile_append_of_stop hs, List.takeWhile_eq_self_iff]
    exact fun _ hc => isIndent_of_mem_indentOf hc
  rw [normalizeIndent_eq, ← drop_length_takeWhile, hindent, List.drop_left, columns_indentOf,
    Nat.mul_div_cancel k hw]

/-- An indentation in whole steps stays as it is. -/
theorem normalizeIndent_idempotent (hw : 0 < w) (spaces : Bool) (s : List Char) :
    normalizeIndent w spaces (normalizeIndent w spaces s) = normalizeIndent w spaces s := by
  rw [normalizeIndent_eq w spaces s]
  exact normalizeIndent_indentOf hw (dropWhile_stop isIndent s)

theorem Marked.keeps_normalizeIndent {F : List Char} {f : List Char → List Char} (hf : Marked F f)
    (w : Nat) (spaces : Bool) : Keeps f (normalizeIndent w spaces) := by
  intro s hs
  have hrest : f (s.dropWhile isIndent) = s.dropWhile isIndent := by
    rw [← List.takeWhile_append_dropWhile (p := isIndent) (l := s),
      hf.indented _ _ (isBlankText_indent s)] at hs
    exact List.append_cancel_left hs
  rw [normalizeIndent_eq, hf.indented _ _ (isBlankText_indentOf w spaces _), hrest]

/-- What stands behind the white space in front stays. -/
theorem trimStart_normalizeIndent (w : Nat) (spaces : Bool) (s : List Char) :
    trimStart (normalizeIndent w spaces s) = trimStart s := by
  conv_rhs => rw [← List.takeWhile_append_dropWhile (p := isIndent) (l := s)]
  rw [normalizeIndent_eq, trimStart_append (isBlankText_indentOf w spaces _),
    trimStart_append (isBlankText_indent s)]

theorem ink_normalizeIndent (w : Nat) (spaces : Bool) (s : List Char) :
    ink (normalizeIndent w spaces s) = ink s := by
  rw [← ink_trimStart, trimStart_normalizeIndent, ink_trimStart]

theorem normalizeIndent_of_startsInk (h : StartsInk s) (w : Nat) (spaces : Bool) :
    normalizeIndent w spaces s = s := by
  obtain ⟨c, r, rfl, hblank⟩ := h.exists_cons
  have hc : isIndent c = false := Bool.eq_false_iff.2 fun hi => by
    rw [isBlank_of_isIndent hi] at hblank
    cases hblank
  rw [normalizeIndent, List.takeWhile_cons_of_neg (by simp [hc])]
  rfl

theorem endsInk_normalizeIndent (h : EndsInk s) (w : Nat) (spaces : Bool) :
    EndsInk (normalizeIndent w spaces s) := by
  rw [← endsInk_trimStart, trimStart_normalizeIndent]
  exact endsInk_trimStart.2 h

theorem mem_normalizeIndent (h : c ∈ normalizeIndent w spaces s) : c = stepChar spaces ∨ c ∈ s := by
  rw [normalizeIndent_eq, List.mem_append] at h
  rcases h with h | h
  · exact Or.inl (eq_stepChar_of_mem_indentOf h)
  · exact Or.inr ((List.dropWhile_sublist _).mem h)

/-! ## Depth -/

/-- Rounding down an indentation of spaces does not make it deeper. -/
theorem depth_normalizeIndent_le (htab : '\t' ∉ s) (w : Nat) :
    depth (normalizeIndent w true s) ≤ depth s := by
  have hindent : s.takeWhile isIndent = List.replicate (s.takeWhile isIndent).length ' ' := by
    refine List.eq_replicate_of_mem fun c hc => ?_
    have hc' : isIndent c = true := List.all_eq_true.1 List.all_takeWhile c hc
    rw [isIndent, Bool.or_eq_true, beq_iff_eq, beq_iff_eq] at hc'
    refine hc'.resolve_right fun he => htab ?_
    exact he ▸ (List.takeWhile_sublist _).mem hc
  have hdepth : depth s = (s.takeWhile isIndent).length + depth (s.dropWhile isIndent) := by
    conv_lhs => rw [← List.takeWhile_append_dropWhile (p := isIndent) (l := s)]
    rw [depth, leading_append (isBlankText_indent s), Utf8.size_append, hindent,
      Utf8.size_replicate_space, ← hindent, depth]
  rw [hdepth, normalizeIndent_eq, depth, leading_append (isBlankText_indentOf w true _),
    Utf8.size_append, indentOf, if_pos rfl, Utf8.size_replicate_space, ← depth]
  refine Nat.add_le_add_right ((Nat.div_mul_le_self _ _).trans ?_) _
  rw [hindent, columns_replicate, if_neg (by decide), Nat.mul_one, ← hindent]

end HamlServer.Correct
