import HamlServer.Text.Blank
import HamlServer.Text.Word

/-!
# Words and white space

No character of a name is white space.  In ASCII this is checked character by character, and above
it the runs of the two tables are compared.

* `isBlank_of_isNameChar`, `isBlank_of_isWordChar`
-/

namespace HamlServer.Text

variable {c : Char}

/-- The runs of white space above ASCII. -/
def blankRanges : List (Nat × Nat) := [(0x85, 0x85), (0xA0, 0xA0), (0x1680, 0x1680),
  (0x2000, 0x200A), (0x2028, 0x2029), (0x202F, 0x202F), (0x205F, 0x205F), (0x3000, 0x3000)]

theorem mem_blankRanges (h : isBlank c = true) (hc : 0x80 ≤ c.toNat) :
    ∃ run ∈ blankRanges, run.1 ≤ c.toNat ∧ c.toNat ≤ run.2 := by
  simp only [isBlank, Bool.or_eq_true, Bool.and_eq_true, decide_eq_true_eq, beq_iff_eq] at h
  simp only [blankRanges, List.mem_cons, List.not_mem_nil, or_false, exists_eq_or_imp,
    exists_eq_left]
  omega

/-- No run of word characters meets one of white space. -/
theorem wordRanges_disjoint : ∀ run ∈ wordRanges, ∀ blank ∈ blankRanges,
    run.2 < blank.1 ∨ blank.2 < run.1 := by
  have hall : (wordRanges.all fun run => blankRanges.all fun blank =>
      Nat.blt run.2 blank.1 || Nat.blt blank.2 run.1) = true := by decide +kernel
  intro run hrun blank hblank
  have h := List.all_eq_true.1 (List.all_eq_true.1 hall run hrun) blank hblank
  simpa [Nat.blt_eq] using h

/-- White space stands in no name. -/
theorem isBlank_of_isNameChar (h : isNameChar c = true) : isBlank c = false := by
  refine Bool.eq_false_iff.2 fun hb => ?_
  rw [isNameChar, Bool.or_eq_true, beq_iff_eq] at h
  rcases h with h | rfl
  · rcases Nat.lt_or_ge c.toNat 0x80 with hc | hc
    · rw [isWordChar_of_ascii hc] at h
      have hascii : ∀ n < 0x80, isAsciiWordChar (Char.ofNat n) = true →
          isBlank (Char.ofNat n) = false := by decide
      rw [← Char.ofNat_toNat c] at h hb
      rw [hascii _ hc h] at hb
      cases hb
    · obtain ⟨blank, hblank, hlo, hhi⟩ := mem_blankRanges hb hc
      rw [isWordChar, if_neg (Nat.not_lt.2 hc), inRanges, List.any_eq_true] at h
      obtain ⟨run, hrun, hin⟩ := h
      rw [Bool.and_eq_true, decide_eq_true_eq, decide_eq_true_eq] at hin
      have := wordRanges_disjoint run hrun blank hblank
      omega
  · cases hb

theorem isNameChar_of_isWordChar (h : isWordChar c = true) : isNameChar c = true := by
  rw [isNameChar, h, Bool.true_or]

theorem not_isNameChar_of_isBlank (h : isBlank c = true) : isNameChar c = false :=
  Bool.eq_false_iff.2 fun hc => by
    rw [isBlank_of_isNameChar hc] at h
    cases h

theorem isBlank_of_isWordChar (h : isWordChar c = true) : isBlank c = false :=
  isBlank_of_isNameChar (isNameChar_of_isWordChar h)

end HamlServer.Text
