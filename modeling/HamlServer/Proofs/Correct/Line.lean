import HamlServer.Proofs.Correct.Attribute
import HamlServer.Proofs.Correct.Indent

/-!
# All corrections of a line

The corrections of a line are applied one after the other.  Each leaves its own results alone, and
each keeps what the ones in front of it have corrected, so a line that went through all of them is
left alone by every one.

* `fix_idempotent` and `pairwise_keeps`: the two facts about the corrections.
* `fixLine_fixLine`: a corrected line stays as it is.
* `fixLine_induction`: what each correction preserves, all of them preserve.
-/

namespace HamlServer.Correct

open Text

variable {ρ : Type} {c : LintConfig} {inFilter : Bool} {rule : LineRule} {x : Char} {s : List Char}

/-! ## White space at the end -/

theorem trimLine_idempotent (s : List Char) : trimLine (trimLine s) = trimLine s :=
  trimEnd_eq_self_iff.2 (trimEnd_eq_nil_or_endsInk s)

theorem trimLine_keeps {g : List Char → List Char} (hnil : g [] = [])
    (hends : ∀ s, EndsInk s → EndsInk (g s)) : Keeps trimLine g := by
  intro s hs
  rcases trimEnd_eq_self_iff.1 hs with rfl | h
  · rw [hnil]
    rfl
  · exact (hends s h).trimEnd_eq

/-! ## The corrections by name -/

theorem indentWidth_pos (c : LintConfig) : 0 < indentWidth c := by
  rw [indentWidth]
  split
  · decide
  · decide
  · next w hw _ => exact Nat.pos_of_ne_zero fun h => hw (h ▸ rfl)

namespace LineRule

theorem mem_all (rule : LineRule) : rule ∈ all := by
  cases rule <;> decide

theorem fix_nil (c : LintConfig) (rule : LineRule) : rule.fix c [] = [] := by
  cases rule <;> rfl

theorem startsInk_fix (rule : LineRule) (h : StartsInk s) : StartsInk (rule.fix c s) := by
  cases rule with
  | trailingWhitespace => exact h.trimEnd
  | classesBeforeIds => exact (marked_orderSegments _).startsInk h
  | spaceBeforeScript => exact marked_spaceScript.startsInk h
  | leadingCommentSpace => exact marked_spaceComment.startsInk h
  | htmlAttributes => exact marked_hashAttributes.startsInk h
  | indentation =>
    rw [fix, normalizeIndent_of_startsInk h]
    exact h

theorem endsInk_fix (rule : LineRule) (h : EndsInk s) : EndsInk (rule.fix c s) := by
  cases rule with
  | trailingWhitespace =>
    rw [fix, trimLine, h.trimEnd_eq]
    exact h
  | classesBeforeIds => exact (marked_orderSegments _).endsInk h
  | spaceBeforeScript => exact marked_spaceScript.endsInk h
  | leadingCommentSpace => exact marked_spaceComment.endsInk h
  | htmlAttributes => exact marked_hashAttributes.endsInk h
  | indentation => exact endsInk_normalizeIndent h _ _

/-- Each correction leaves its own results alone. -/
theorem fix_idempotent (c : LintConfig) (rule : LineRule) (s : List Char) :
    rule.fix c (rule.fix c s) = rule.fix c s := by
  cases rule with
  | trailingWhitespace => exact trimLine_idempotent s
  | classesBeforeIds => exact orderSegments_idempotent _ s
  | spaceBeforeScript => exact spaceScript_idempotent s
  | leadingCommentSpace => exact spaceComment_idempotent s
  | htmlAttributes => exact hashAttributes_idempotent s
  | indentation => exact normalizeIndent_idempotent (indentWidth_pos c) _ s

/-- Each correction keeps what the ones in front of it have corrected. -/
theorem pairwise_keeps (c : LintConfig) :
    all.Pairwise fun rule later => Keeps (rule.fix c) (later.fix c) := by
  have hclass := marked_orderSegments ((c.string? "ClassesBeforeIds" "EnforcedStyle").getD "class")
  simp only [all, List.pairwise_cons, List.forall_mem_cons, List.not_mem_nil, IsEmpty.forall_iff,
    implies_true, and_true, List.Pairwise.nil]
  refine ⟨?trimmed, ?ordered, ?script, ?comment, ?hash⟩
  case trimmed =>
    have htrim (later : LineRule) : Keeps (trailingWhitespace.fix c) (later.fix c) :=
      trimLine_keeps (fix_nil c later) fun _ => endsInk_fix later
    exact ⟨htrim _, htrim _, htrim _, htrim _, htrim _⟩
  case ordered =>
    exact ⟨hclass.keeps_of_disjoint marked_spaceScript (by simp),
      hclass.keeps_of_disjoint marked_spaceComment (by simp),
      orderSegments_keeps_hashAttributes _, hclass.keeps_normalizeIndent _ _⟩
  case script =>
    exact ⟨spaceScript_keeps_spaceComment,
      marked_spaceScript.keeps_of_disjoint marked_hashAttributes (by simp [marks]),
      marked_spaceScript.keeps_normalizeIndent _ _⟩
  case comment =>
    exact ⟨marked_spaceComment.keeps_of_disjoint marked_hashAttributes (by simp [marks]),
      marked_spaceComment.keeps_normalizeIndent _ _⟩
  case hash => exact marked_hashAttributes.keeps_normalizeIndent _ _

/-- The characters that a correction can bring into a line. -/
theorem mem_fix (rule : LineRule) (h : x ∈ rule.fix c s) :
    x ∈ s ∨ x ∈ glyphs ∨ x = stepChar (usesSpaces c) := by
  have hspace : x = ' ' → x ∈ glyphs := by
    rintro rfl
    decide
  cases rule with
  | trailingWhitespace =>
    obtain ⟨b, -, hs⟩ := exists_trimEnd_append s
    rw [← hs]
    exact Or.inl (List.mem_append_left b h)
  | classesBeforeIds => exact Or.inl ((orderSegments_perm _ s).mem_iff.1 h)
  | spaceBeforeScript => exact (mem_spaceScript h).imp_right (Or.inl ∘ hspace)
  | leadingCommentSpace => exact (mem_spaceComment h).imp_right (Or.inl ∘ hspace)
  | htmlAttributes => exact (mem_hashAttributes h).imp_right Or.inl
  | indentation => exact (mem_normalizeIndent h).elim (Or.inr ∘ Or.inr) Or.inl

/-- Whether a correction is made: it is enabled, and in a filter block it is the first one. -/
def Applies (c : LintConfig) (inFilter : Bool) (rule : LineRule) : Prop :=
  c.isEnabled rule.name = true ∧ (inFilter = true → rule = .trailingWhitespace)

/-- A correction of a line, if it is to be made. -/
def apply (c : LintConfig) (inFilter : Bool) (rule : LineRule) (line : List Char) : List Char :=
  if (inFilter && rule != .trailingWhitespace) || !c.isEnabled rule.name then line
  else rule.fix c line

theorem apply_of_applies (h : rule.Applies c inFilter) (s : List Char) :
    rule.apply c inFilter s = rule.fix c s := by
  refine if_neg ?_
  rw [h.1, Bool.not_true, Bool.or_false, Bool.and_eq_true, bne_iff_ne]
  exact fun ⟨hfilter, hne⟩ => hne (h.2 hfilter)

theorem apply_of_not_applies (h : ¬ rule.Applies c inFilter) (s : List Char) :
    rule.apply c inFilter s = s := by
  refine if_pos ?_
  rw [Bool.or_eq_true, Bool.and_eq_true, bne_iff_ne, Bool.not_eq_true', or_iff_not_imp_right,
    Bool.not_eq_false]
  intro henabled
  exact Classical.not_imp.1 fun hfilter => h ⟨henabled, hfilter⟩

end LineRule

/-! ## One after the other -/

theorem fixLine_eq (c : LintConfig) (inFilter : Bool) (s : List Char) :
    fixLine c inFilter s = LineRule.all.foldl (fun s rule => rule.apply c inFilter s) s := rfl

/-- What each correction preserves, all of them preserve. -/
theorem fixLine_induction {P : List Char → Prop} (hs : P s)
    (h : ∀ rule : LineRule, rule.Applies c inFilter → ∀ s, P s → P (rule.fix c s)) :
    P (fixLine c inFilter s) := by
  rw [fixLine_eq]
  refine List.foldlRecOn _ _ hs fun s hs rule _ => ?_
  by_cases happ : rule.Applies c inFilter
  · rw [LineRule.apply_of_applies happ]
    exact h rule happ s hs
  · rwa [LineRule.apply_of_not_applies happ]

theorem startsInk_fixLine (c : LintConfig) (inFilter : Bool) (h : StartsInk s) :
    StartsInk (fixLine c inFilter s) :=
  fixLine_induction h fun rule _ _ => rule.startsInk_fix

theorem endsInk_fixLine (c : LintConfig) (inFilter : Bool) (h : EndsInk s) :
    EndsInk (fixLine c inFilter s) :=
  fixLine_induction h fun rule _ _ => rule.endsInk_fix

theorem fixLine_nil (c : LintConfig) (inFilter : Bool) : fixLine c inFilter [] = [] := by
  refine fixLine_induction (P := fun s => s = []) rfl fun rule _ s hs => ?_
  rw [hs, rule.fix_nil]

/-- A character that no correction brings in is not in a corrected line either. -/
theorem notMem_fixLine (hx : x ∉ s) (hglyphs : x ∉ glyphs) (hstep : x ≠ stepChar (usesSpaces c)) :
    x ∉ fixLine c inFilter s := by
  refine fixLine_induction (P := fun s => x ∉ s) hx fun rule _ s hs hmem => ?_
  rcases rule.mem_fix hmem with h | h | h
  · exact hs h
  · exact hglyphs h
  · exact hstep h

/-! ## Once more -/

/-- Behind functions that are applied one after the other, each finds nothing more to do if it
leaves its own results alone and keeps those of the ones in front. -/
theorem settled_foldl {f : ρ → List Char → List Char} {rules : List ρ}
    (hidem : ∀ r ∈ rules, ∀ s, f r (f r s) = f r s)
    (hkeeps : rules.Pairwise fun r later => Keeps (f r) (f later)) (s : List Char) :
    ∀ r ∈ rules, f r (rules.foldl (fun s r => f r s) s) = rules.foldl (fun s r => f r s) s := by
  induction rules generalizing s with
  | nil => exact fun r hr => absurd hr List.not_mem_nil
  | cons r rules ih =>
    rw [List.forall_mem_cons] at hidem
    rw [List.pairwise_cons] at hkeeps
    rw [List.foldl_cons, List.forall_mem_cons]
    refine ⟨?_, ih hidem.2 hkeeps.2 (f r s)⟩
    exact List.foldlRecOn (motive := fun s => f r s = s) _ _ (hidem.1 s)
      fun s hs later hlater => hkeeps.1 later hlater s hs

theorem LineRule.apply_idempotent (c : LintConfig) (inFilter : Bool) (rule : LineRule)
    (s : List Char) :
    rule.apply c inFilter (rule.apply c inFilter s) = rule.apply c inFilter s := by
  by_cases h : rule.Applies c inFilter
  · rw [apply_of_applies h, apply_of_applies h, rule.fix_idempotent]
  · rw [apply_of_not_applies h, apply_of_not_applies h]

theorem LineRule.pairwise_keeps_apply (c : LintConfig) (inFilter : Bool) :
    all.Pairwise fun rule later => Keeps (rule.apply c inFilter) (later.apply c inFilter) := by
  refine (pairwise_keeps c).imp fun {rule later} hkeeps s hs => ?_
  by_cases hlater : later.Applies c inFilter
  · rw [apply_of_applies hlater]
    by_cases h : rule.Applies c inFilter
    · rw [apply_of_applies h] at hs ⊢
      exact hkeeps s hs
    · exact apply_of_not_applies h _
  · rwa [apply_of_not_applies hlater]

/-- A corrected line is left alone by each correction. -/
theorem LineRule.apply_fixLine (c : LintConfig) (inFilter : Bool) (rule : LineRule)
    (s : List Char) :
    rule.apply c inFilter (fixLine c inFilter s) = fixLine c inFilter s :=
  settled_foldl (fun rule _ => rule.apply_idempotent c inFilter)
    (LineRule.pairwise_keeps_apply c inFilter) s rule rule.mem_all

/-- A corrected line stays as it is, also if it is then taken to lie in a filter block. -/
theorem fixLine_fixLine {b₁ b₂ : Bool} (h : b₁ = true → b₂ = true) (c : LintConfig)
    (s : List Char) : fixLine c b₂ (fixLine c b₁ s) = fixLine c b₁ s := by
  refine fixLine_induction (P := fun s' => s' = fixLine c b₁ s) rfl fun rule happ s' hs' => ?_
  have happ₁ : rule.Applies c b₁ := ⟨happ.1, fun hb => happ.2 (h hb)⟩
  rw [hs', ← LineRule.apply_of_applies happ₁, rule.apply_fixLine]

/-- A corrected line has no white space at its end. -/
theorem trimLine_fixLine (htrim : c.isEnabled "TrailingWhitespace" = true) (inFilter : Bool)
    (s : List Char) : trimLine (fixLine c inFilter s) = fixLine c inFilter s := by
  have happ : LineRule.trailingWhitespace.Applies c inFilter := ⟨htrim, fun _ => rfl⟩
  have h := LineRule.trailingWhitespace.apply_fixLine c inFilter s
  rwa [LineRule.apply_of_applies happ] at h

end HamlServer.Correct
