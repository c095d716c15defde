import HamlServer.Correct.Line
import HamlServer.Proofs.Text.Ink

/-!
# Corrections behind the indentation

Most corrections of a line work on what stands behind its indentation, and only if that starts with
one of some marks.  `Marked` says this of a correction.  For two of them it is then enough to look
at lines without indentation, and two that have no mark in common do not get in each other's way.

* `Marked.keeps_of_disjoint`: corrections without a common mark keep each other's results.
-/

namespace HamlServer.Correct

open Text

/-- What `f` has corrected, `g` leaves corrected. -/
def Keeps (f g : List Char → List Char) : Prop := ∀ s, f s = s → f (g s) = g s

/-- The first character of a text is one of some marks. -/
def StartsWith (marks s : List Char) : Prop := ∃ c ∈ marks, ∃ r, s = c :: r

theorem StartsWith.append {marks a : List Char} (h : StartsWith marks a) (b : List Char) :
    StartsWith marks (a ++ b) := by
  obtain ⟨c, hc, r, rfl⟩ := h
  exact ⟨c, hc, r ++ b, rfl⟩

/-- A correction that works behind the indentation, and there on texts that start with a mark. -/
structure Marked (marks : List Char) (f : List Char → List Char) : Prop where
  ink : ∀ c ∈ marks, isBlank c = false
  nil : f [] = []
  indented : ∀ a b, isBlankText a = true → f (a ++ b) = a ++ f b
  change : ∀ b, StartsInk b → f b = b ∨
    StartsWith marks b ∧ StartsWith marks (f b) ∧ (EndsInk b → EndsInk (f b))

namespace Marked

variable {F G : List Char} {f g : List Char → List Char} {s : List Char}

theorem eq_leading_append (hf : Marked F f) (s : List Char) :
    f s = leading s ++ f (trimStart s) := by
  conv_lhs => rw [← leading_append_trimStart s]
  exact hf.indented _ _ (isBlankText_leading s)

theorem eq_self_iff (hf : Marked F f) : f s = s ↔ f (trimStart s) = trimStart s := by
  constructor
  · intro h
    rw [hf.eq_leading_append] at h
    exact List.append_cancel_left (h.trans (leading_append_trimStart s).symm)
  · intro h
    rw [hf.eq_leading_append, h, leading_append_trimStart]

theorem startsInk_of_startsWith (hf : Marked F f) (h : StartsWith F s) : StartsInk s := by
  obtain ⟨c, hc, r, rfl⟩ := h
  exact startsInk_cons.2 (hf.ink c hc)

theorem startsInk (hf : Marked F f) (h : StartsInk s) : StartsInk (f s) := by
  rcases hf.change s h with he | ⟨-, hmark, -⟩
  · rwa [he]
  · exact hf.startsInk_of_startsWith hmark

theorem endsInk (hf : Marked F f) (h : EndsInk s) : EndsInk (f s) := by
  have hbody : EndsInk (trimStart s) := endsInk_trimStart.2 h
  rw [hf.eq_leading_append]
  rcases hf.change _ h.startsInk_trimStart with he | ⟨-, -, hends⟩
  · rw [he]
    exact hbody.append _
  · exact (hends hbody).append _

/-- A line with another mark stays as it is. -/
theorem eq_self_of_notMem (hf : Marked F f) {c : Char} {r : List Char} (hs : trimStart s = c :: r)
    (hc : c ∉ F) : f s = s := by
  rw [hf.eq_self_iff]
  rcases trimStart_eq_nil_or_startsInk s with hnil | hstart
  · rw [hnil, hf.nil]
  · refine (hf.change _ hstart).resolve_right fun ⟨hmark, _⟩ => ?_
    obtain ⟨c', hc', r', hs'⟩ := hmark
    obtain ⟨rfl, -⟩ := List.cons.inj (hs.symm.trans hs')
    exact hc hc'

/-- Whether a correction keeps what another one corrected is seen on lines without indentation. -/
theorem keeps (hf : Marked F f) (hg : Marked G g)
    (h : ∀ b, StartsInk b → f b = b → f (g b) = g b) : Keeps f g := by
  intro s hs
  have hbody := hf.eq_self_iff.1 hs
  rw [hg.eq_leading_append, hf.indented _ _ (isBlankText_leading s)]
  rcases trimStart_eq_nil_or_startsInk s with hnil | hstart
  · rw [hnil, hg.nil, hf.nil]
  · rw [h _ hstart hbody]

/-- Whether a correction leaves its own results alone is seen on lines without indentation. -/
theorem idempotent (hf : Marked F f) (h : ∀ b, StartsInk b → f (f b) = f b) (s : List Char) :
    f (f s) = f s := by
  rw [hf.eq_leading_append s, hf.indented _ _ (isBlankText_leading s)]
  rcases trimStart_eq_nil_or_startsInk s with hnil | hstart
  · rw [hnil, hf.nil, hf.nil]
  · rw [h _ hstart]

/-- Corrections without a common mark keep each other's results. -/
theorem keeps_of_disjoint (hf : Marked F f) (hg : Marked G g) (hd : ∀ c ∈ G, c ∉ F) :
    Keeps f g := by
  refine hf.keeps hg fun b hb hs => ?_
  rcases hg.change b hb with he | ⟨-, hmark, -⟩
  · rw [he, hs]
  · rcases hf.change (g b) (hg.startsInk_of_startsWith hmark) with he | ⟨hmark', -, -⟩
    · exact he
    · obtain ⟨c, hc, r, hr⟩ := hmark
      obtain ⟨c', hc', r', hr'⟩ := hmark'
      obtain ⟨rfl, -⟩ := List.cons.inj (hr.symm.trans hr')
      exact absurd hc' (hd c hc)

end Marked

/-! ## Script -/

variable {c mark : Char} {r s code text : List Char}

/-- What putting a space behind the mark of a script line does to a line. -/
theorem spaceScript_cases (s : List Char) :
    spaceScript s = s ∨ ∃ mark gap code, mark ∈ ['-', '='] ∧ isBlankText gap = true ∧
      StartsInk code ∧ s = leading s ++ mark :: (gap ++ code) ∧
      spaceScript s = leading s ++ mark :: ' ' :: code := by
  have hs := leading_append_trimStart s
  rw [spaceScript]
  split
  · next mark r hr =>
    dsimp only
    split_ifs with hmark hone htwo
    · exact Or.inl rfl
    · exact Or.inl rfl
    · exact Or.inl rfl
    · rw [not_or] at hmark
      refine Or.inr ⟨mark, leading r, trimStart r, ?_, isBlankText_leading r,
        (trimStart_eq_nil_or_startsInk r).resolve_left hmark.2, ?_, rfl⟩
      · simpa [or_iff_not_imp_left] using hmark.1
      · rw [leading_append_trimStart, ← hr, hs]
  · exact Or.inl rfl

/-- One space behind the mark stays. -/
theorem spaceScript_spaced (hmark : isBlank mark = false) (hcode : StartsInk code) :
    spaceScript (mark :: ' ' :: code) = mark :: ' ' :: code := by
  have hgap : leading (' ' :: code) = [' '] := by
    rw [← List.singleton_append, leading_append rfl, hcode.leading_eq, List.append_nil]
  rw [spaceScript, (startsInk_cons.2 hmark).trimStart_eq]
  dsimp only
  rw [hgap, if_pos (show Utf8.size [' '] = 1 from rfl)]
  exact ite_self _

/-- Comments are no script lines. -/
theorem spaceScript_comment (r : List Char) :
    spaceScript ('-' :: '#' :: r) = '-' :: '#' :: r := by
  have hstart : StartsInk ('#' :: r) := startsInk_cons.2 rfl
  have hline : StartsInk ('-' :: '#' :: r) := startsInk_cons.2 rfl
  rw [spaceScript, hline.trimStart_eq]
  dsimp only
  rw [hstart.leading_eq, hstart.trimStart_eq]
  simp

theorem marked_spaceScript : Marked ['-', '='] spaceScript where
  ink := by simp [isBlank]
  nil := rfl
  indented a b ha := by
    rw [spaceScript, spaceScript, trimStart_append ha, leading_append ha]
    split
    · dsimp only
      split_ifs <;> simp
    · rfl
  change b hb := by
    rcases spaceScript_cases b with he | ⟨mark, gap, code, hmark, -, hcode, hs, he⟩
    · exact Or.inl he
    · rw [hb.leading_eq, List.nil_append] at hs he
      refine Or.inr ⟨⟨mark, hmark, _, hs⟩, ⟨mark, hmark, _, he⟩, fun hends => ?_⟩
      have hbody : b = (mark :: gap) ++ code := hs
      rw [hbody, endsInk_append_iff _ hcode.ne_nil] at hends
      rw [he]
      exact hends.append [mark, ' ']

/-- Only white space behind the mark is replaced. -/
theorem ink_spaceScript (s : List Char) : ink (spaceScript s) = ink s := by
  rcases spaceScript_cases s with he | ⟨mark, gap, code, hmark, hgap, -, hs, he⟩
  · rw [he]
  · have hmark' := marked_spaceScript.ink mark hmark
    conv_rhs => rw [hs]
    rw [he, ink_append, ink_append, ink_cons_of_not_blank hmark', ink_cons_of_not_blank hmark',
      ink_cons_of_blank rfl, ink_append, ink_of_isBlankText hgap, List.nil_append]

theorem mem_spaceScript (h : c ∈ spaceScript s) : c ∈ s ∨ c = ' ' := by
  rcases spaceScript_cases s with he | ⟨mark, gap, code, -, -, -, hs, he⟩
  · exact Or.inl (he ▸ h)
  · have hsub : (leading s ++ mark :: code).Sublist s := by
      conv_rhs => rw [hs]
      exact (List.Sublist.refl _).append ((List.sublist_append_right gap code).cons_cons mark)
    rw [he, List.mem_append, List.mem_cons, List.mem_cons] at h
    rcases h with h | rfl | h | h
    · exact Or.inl (hsub.mem (List.mem_append_left _ h))
    · exact Or.inl (hsub.mem (by simp))
    · exact Or.inr h
    · exact Or.inl (hsub.mem (by simp [h]))

theorem spaceScript_idempotent (s : List Char) : spaceScript (spaceScript s) = spaceScript s := by
  refine marked_spaceScript.idempotent (fun b hb => ?_) s
  rcases spaceScript_cases b with he | ⟨mark, gap, code, hmark, -, hcode, -, he⟩
  · rw [he, he]
  · rw [hb.leading_eq, List.nil_append] at he
    rw [he, spaceScript_spaced (marked_spaceScript.ink mark hmark) hcode]

/-! ## Comments -/

/-- What putting a space behind the mark of a comment does to a line. -/
theorem spaceComment_cases (s : List Char) :
    spaceComment s = s ∨ ∃ gap text, isBlankText gap = true ∧ (text = [] ∨ StartsInk text) ∧
      s = leading s ++ '-' :: '#' :: (gap ++ text) ∧
      spaceComment s = leading s ++ '-' :: '#' :: (if text = [] then [] else ' ' :: text) := by
  have hs := leading_append_trimStart s
  rw [spaceComment]
  split
  · next r hr =>
    refine Or.inr ⟨leading r, trimStart r, isBlankText_leading r, trimStart_eq_nil_or_startsInk r,
      ?_, rfl⟩
    rw [leading_append_trimStart, ← hr, hs]
  · exact Or.inl rfl

theorem marked_spaceComment : Marked ['-'] spaceComment where
  ink := by simp [isBlank]
  nil := rfl
  indented a b ha := by
    rw [spaceComment, spaceComment, trimStart_append ha, leading_append ha]
    split
    · simp
    · rfl
  change b hb := by
    rcases spaceComment_cases b with he | ⟨gap, text, -, -, hs, he⟩
    · exact Or.inl he
    · rw [hb.leading_eq, List.nil_append] at hs he
      have hmark : '-' ∈ ['-'] := List.mem_singleton_self _
      refine Or.inr ⟨⟨'-', hmark, _, hs⟩, ⟨'-', hmark, _, he⟩, fun hends => ?_⟩
      rw [he]
      split
      · exact endsInk_concat (a := ['-']).2 rfl
      · next hne =>
        have hbody : b = ('-' :: '#' :: gap) ++ text := hs
        rw [hbody, endsInk_append_iff _ hne] at hends
        exact hends.append ['-', '#', ' ']

/-- Only white space behind the mark is replaced. -/
theorem ink_spaceComment (s : List Char) : ink (spaceComment s) = ink s := by
  rcases spaceComment_cases s with he | ⟨gap, text, hgap, -, hs, he⟩
  · rw [he]
  · have htext : ink (if text = [] then [] else ' ' :: text) = ink text := by
      split
      · next hnil => rw [hnil]
      · exact ink_cons_of_blank rfl text
    conv_rhs => rw [hs]
    rw [he, ink_append, ink_append, ink_cons_of_not_blank rfl, ink_cons_of_not_blank rfl,
      ink_cons_of_not_blank rfl, ink_cons_of_not_blank rfl, ink_append, ink_of_isBlankText hgap,
      htext, List.nil_append]

theorem mem_spaceComment (h : c ∈ spaceComment s) : c ∈ s ∨ c = ' ' := by
  rcases spaceComment_cases s with he | ⟨gap, text, -, -, hs, he⟩
  · exact Or.inl (he ▸ h)
  · have hsub : (leading s ++ '-' :: '#' :: text).Sublist s := by
      conv_rhs => rw [hs]
      exact (List.Sublist.refl _).append
        (((List.sublist_append_right gap text).cons_cons '#').cons_cons '-')
    rw [he, List.mem_append, List.mem_cons, List.mem_cons] at h
    rcases h with h | rfl | rfl | h
    · exact Or.inl (hsub.mem (List.mem_append_left _ h))
    · exact Or.inl (hsub.mem (by simp))
    · exact Or.inl (hsub.mem (by simp))
    · split at h
      · cases h
      · rcases List.mem_cons.1 h with h | h
        · exact Or.inr h
        · exact Or.inl (hsub.mem (by simp [h]))

theorem spaceComment_idempotent (s : List Char) :
    spaceComment (spaceComment s) = spaceComment s := by
  refine marked_spaceComment.idempotent (fun b hb => ?_) s
  rcases spaceComment_cases b with he | ⟨gap, text, -, htext, -, he⟩
  · rw [he, he]
  · rw [hb.leading_eq, List.nil_append] at he
    have hstart (r : List Char) : trimStart ('-' :: r) = '-' :: r :=
      (startsInk_cons.2 rfl).trimStart_eq
    rw [he, spaceComment, hstart, (startsInk_cons.2 rfl).leading_eq]
    rcases htext with rfl | htext
    · rfl
    · have hspace : trimStart (' ' :: text) = text := by
        rw [← List.singleton_append, trimStart_append rfl, htext.trimStart_eq]
      simp [htext.ne_nil, hspace]

/-- Comments stay as they are when script lines are spaced. -/
theorem spaceScript_keeps_spaceComment : Keeps spaceScript spaceComment := by
  refine marked_spaceScript.keeps marked_spaceComment fun b hb hs => ?_
  rcases spaceComment_cases b with he | ⟨gap, text, -, -, -, he⟩
  · rw [he, hs]
  · rw [hb.leading_eq, List.nil_append] at he
    rw [he, spaceScript_comment]

end HamlServer.Correct
