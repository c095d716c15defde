import HamlServer.Text.Line

/-!
# Cutting a text at a separator

A text without a separator is one piece.  Any other text is a front, the last separator, and a last
piece that holds none; `cutAtLast` finds these parts, and `List.splitOn` ends with that piece.

* `cutAtLast_cases`: the two cases of a cut at the last separator.
* `of_mem_splitOn`: what the pieces between separators hold.
* `getLastD_splitOn_append`: what holds no separator lengthens the last piece.
* `dropEnd?_eq_some_iff`: an ending is taken off exactly where a text has it.
-/

namespace HamlServer.Text

variable {c : Char} {s t a b : List Char}

/-! ## Separators -/

/-- Without the character nothing is cut, and otherwise at its first place. -/
theorem cutAt_cases (c : Char) (s : List Char) :
    (c ∉ s ∧ cutAt c s = none) ∨ ∃ a b, s = a ++ c :: b ∧ c ∉ a ∧ cutAt c s = some (a, b) := by
  by_cases h : c ∈ s
  · obtain ⟨a, b, rfl, ha⟩ := List.eq_append_cons_of_mem h
    exact Or.inr ⟨a, b, rfl, ha, cutAt_append ha b⟩
  · exact Or.inl ⟨h, cutAt_eq_none h⟩

theorem cutAtLast_append (a : List Char) (h : c ∉ b) : cutAtLast c (a ++ c :: b) = some (a, b) := by
  have hrev : (a ++ c :: b).reverse = b.reverse ++ c :: a.reverse := by simp
  have hb : c ∉ b.reverse := by
    rwa [List.mem_reverse]
  rw [cutAtLast, hrev, cutAt_append hb]
  simp only [Option.map_some, List.reverse_reverse]

theorem cutAtLast_eq_none (h : c ∉ s) : cutAtLast c s = none := by
  rw [cutAtLast, cutAt_eq_none (by rwa [List.mem_reverse]), Option.map_none]

/-- The last separator of a text that has one. -/
theorem exists_last_of_mem {α : Type} {c : α} {s : List α} (h : c ∈ s) :
    ∃ a b, s = a ++ c :: b ∧ c ∉ b := by
  obtain ⟨b, a, hs, hb⟩ := List.eq_append_cons_of_mem (List.mem_reverse.2 h)
  refine ⟨a.reverse, b.reverse, ?_, by rwa [List.mem_reverse]⟩
  rw [← List.reverse_reverse s, hs]
  simp

/-- A text without the separator is not cut; any other is cut where its last piece begins. -/
theorem cutAtLast_cases (c : Char) (s : List Char) :
    c ∉ s ∧ cutAtLast c s = none ∨
      ∃ a b, s = a ++ c :: b ∧ c ∉ b ∧ cutAtLast c s = some (a, b) := by
  by_cases h : c ∈ s
  · obtain ⟨a, b, rfl, hb⟩ := exists_last_of_mem h
    exact Or.inr ⟨a, b, rfl, hb, cutAtLast_append a hb⟩
  · exact Or.inl ⟨h, cutAtLast_eq_none h⟩

/-! ## Pieces -/

/-- The pieces of a text hold no separator, and nothing that the text does not hold. -/
theorem of_mem_splitOn {α : Type} [BEq α] [LawfulBEq α] {c : α} {s p : List α}
    (h : p ∈ s.splitOn c) : c ∉ p ∧ p ⊆ s := by
  induction s generalizing p with
  | nil =>
    rw [List.splitOn_nil, List.mem_singleton] at h
    rw [h]
    exact ⟨List.not_mem_nil, List.Subset.refl _⟩
  | cons x s ih =>
    rw [List.splitOn_cons_eq_if_modifyHead] at h
    split at h
    · rcases List.mem_cons.1 h with rfl | h
      · exact ⟨List.not_mem_nil, List.nil_subset _⟩
      · exact ⟨(ih h).1, List.subset_cons_of_subset x (ih h).2⟩
    · next hx =>
      obtain ⟨q, qs, hq⟩ := List.exists_cons_of_ne_nil (List.splitOn_ne_nil c s)
      rw [hq, List.modifyHead_cons] at h
      rw [hq] at ih
      rcases List.mem_cons.1 h with rfl | h
      · obtain ⟨hc, hsub⟩ := ih List.mem_cons_self
        have hne : c ≠ x := fun he => hx (by rw [he, beq_self_eq_true])
        exact ⟨List.not_mem_cons_of_ne_of_not_mem hne hc, List.cons_subset_cons x hsub⟩
      · obtain ⟨hc, hsub⟩ := ih (List.mem_cons_of_mem q h)
        exact ⟨hc, List.subset_cons_of_subset x hsub⟩

/-! ## The last piece -/

section

variable {α : Type} [BEq α] [LawfulBEq α] {c : α} {s b : List α}

theorem getLastD_splitOn (h : c ∉ s) : (s.splitOn c).getLastD [] = s := by
  rw [List.splitOn_eq_singleton h]
  rfl

theorem getLastD_splitOn_append_cons (a : List α) (h : c ∉ b) :
    ((a ++ c :: b).splitOn c).getLastD [] = b := by
  rw [List.splitOn_append_cons_self, List.splitOn_eq_singleton h, List.getLastD_concat]

/-- In front of a separator nothing changes the last piece. -/
theorem getLastD_splitOn_append_cons_eq (a b : List α) :
    ((a ++ c :: b).splitOn c).getLastD [] = (b.splitOn c).getLastD [] := by
  by_cases hb : c ∈ b
  · obtain ⟨x, y, rfl, hy⟩ := exists_last_of_mem hb
    rw [getLastD_splitOn_append_cons x hy, ← List.cons_append, ← List.append_assoc,
      getLastD_splitOn_append_cons _ hy]
  · rw [getLastD_splitOn_append_cons a hb, getLastD_splitOn hb]

end

/-- What holds no separator lengthens the last piece of the text that it is put behind. -/
theorem getLastD_splitOn_append (s : List Char) (h : c ∉ t) :
    ((s ++ t).splitOn c).getLastD [] = (s.splitOn c).getLastD [] ++ t := by
  by_cases hs : c ∈ s
  · obtain ⟨a, b, rfl, hb⟩ := exists_last_of_mem hs
    have hbt : c ∉ b ++ t := by
      rw [List.mem_append]
      exact not_or_intro hb h
    rw [getLastD_splitOn_append_cons a hb, List.append_assoc, List.cons_append,
      getLastD_splitOn_append_cons a hbt]
  · have hst : c ∉ s ++ t := by
      rw [List.mem_append]
      exact not_or_intro hs h
    rw [getLastD_splitOn hs, getLastD_splitOn hst]

theorem suffix_getLastD_splitOn (c : Char) (s : List Char) : (s.splitOn c).getLastD [] <:+ s := by
  by_cases hs : c ∈ s
  · obtain ⟨a, b, rfl, hb⟩ := exists_last_of_mem hs
    rw [getLastD_splitOn_append_cons a hb]
    exact (List.suffix_cons c b).trans (List.suffix_append a _)
  · exact ⟨[], getLastD_splitOn hs⟩

theorem notMem_getLastD_splitOn (c : Char) (s : List Char) : c ∉ (s.splitOn c).getLastD [] := by
  by_cases hs : c ∈ s
  · obtain ⟨a, b, rfl, hb⟩ := exists_last_of_mem hs
    rwa [getLastD_splitOn_append_cons a hb]
  · rwa [getLastD_splitOn hs]

/-! ## Beginnings and endings -/

theorem dropStart?_eq_none_iff {p s : List Char} : dropStart? p s = none ↔ ¬ p <+: s := by
  rw [Option.eq_none_iff_forall_ne_some]
  constructor
  · rintro h ⟨r, rfl⟩
    exact h r (dropStart?_eq_some_iff.2 rfl)
  · intro h r hr
    exact h ⟨r, (dropStart?_eq_some_iff.1 hr).symm⟩

theorem dropEnd?_eq_some_iff {r : List Char} : dropEnd? t s = some r ↔ s = r ++ t := by
  rw [dropEnd?, Option.map_eq_some_iff]
  constructor
  · rintro ⟨front, hfront, rfl⟩
    have hs : s.reverse = t.reverse ++ front := dropStart?_eq_some_iff.1 hfront
    rw [← List.reverse_reverse s, hs, List.reverse_append, List.reverse_reverse]
  · rintro rfl
    refine ⟨r.reverse, ?_, List.reverse_reverse r⟩
    rw [dropStart?_eq_some_iff, List.reverse_append]

theorem dropEnd?_eq_none_iff : dropEnd? t s = none ↔ ¬ t <:+ s := by
  rw [dropEnd?, Option.map_eq_none_iff, dropStart?_eq_none_iff, List.reverse_prefix]

end HamlServer.Text
