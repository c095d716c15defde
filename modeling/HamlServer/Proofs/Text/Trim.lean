import HamlServer.Text.Blank

/-!
# Trimming

White space at an end of a text goes, and a text without any there stays as it is.
-/

namespace HamlServer.Text

variable {s b : List Char}

theorem trimStart_of_head? (h : ∀ c ∈ s.head?, isBlank c = false) : trimStart s = s := by
  cases s with
  | nil => rfl
  | cons c s => exact List.dropWhile_cons_of_neg (by simp [h c rfl])

theorem trimEnd_of_getLast? (h : ∀ c ∈ s.getLast?, isBlank c = false) : trimEnd s = s := by
  have hr : trimStart s.reverse = s.reverse :=
    trimStart_of_head? (by rwa [List.head?_reverse])
  rw [trimStart] at hr
  rw [trimEnd, hr, List.reverse_reverse]

theorem trimStart_append (h : isBlankText b = true) : trimStart (b ++ s) = trimStart s :=
  List.dropWhile_append_of_pos (List.all_eq_true.1 h)

theorem trimEnd_append (h : isBlankText b = true) : trimEnd (s ++ b) = trimEnd s := by
  have hb : ∀ c ∈ b.reverse, isBlank c = true := fun c hc =>
    List.all_eq_true.1 h c (List.mem_reverse.1 hc)
  rw [trimEnd, List.reverse_append, List.dropWhile_append_of_pos hb, trimEnd]

/-- White space around a text that has none at its ends is all that goes. -/
theorem trim_around {a : List Char} (ha : isBlankText a = true) (hb : isBlankText b = true)
    (hfirst : ∀ c ∈ s.head?, isBlank c = false) (hlast : ∀ c ∈ s.getLast?, isBlank c = false) :
    trim (a ++ s ++ b) = s := by
  rw [trim, List.append_assoc, trimStart_append ha]
  cases s with
  | nil =>
    rw [List.nil_append, (trimStart_eq_nil_iff b).2 hb]
    rfl
  | cons c s =>
    rw [trimStart_of_head? (by exact hfirst), trimEnd_append hb, trimEnd_of_getLast? hlast]

theorem isBlank_of_isDigit {c : Char} (h : c.isDigit = true) : isBlank c = false := by
  have hc : 48 ≤ c.toNat ∧ c.toNat ≤ 57 := by
    simpa [Char.isDigit, UInt32.le_iff_toNat_le] using h
  simp only [isBlank, Bool.or_eq_false_iff, Bool.and_eq_false_iff, decide_eq_false_iff_not,
    beq_eq_false_iff_ne]
  omega

end HamlServer.Text
