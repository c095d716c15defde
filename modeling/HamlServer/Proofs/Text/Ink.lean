import HamlServer.Proofs.Text.Trim
import Mathlib.Data.List.Basic

/-!
# The visible part of a text

The ink of a text is what is left when all white space is taken out.  A text that starts with ink
and ends with ink is one that trimming leaves alone, and trimming changes the ink of no text.

* `trimEnd_eq_self_iff`: what trimming the end leaves alone is empty or ends with ink.
* `ink_trim`: trimming keeps the ink.
-/

namespace HamlServer.Text

variable {a b s : List Char} {c : Char}

/-- The characters of a text that are not white space. -/
def ink (s : List Char) : List Char := s.filter fun c => !isBlank c

/-- The first character of a text is not white space. -/
def StartsInk (s : List Char) : Prop := ∃ c ∈ s.head?, isBlank c = false

/-- The last character of a text is not white space. -/
def EndsInk (s : List Char) : Prop := ∃ c ∈ s.getLast?, isBlank c = false

/-! ## Runs of characters -/

/-- What follows a run of characters of one kind. -/
theorem drop_length_takeWhile (p : Char → Bool) (s : List Char) :
    s.drop (s.takeWhile p).length = s.dropWhile p := by
  have h : (s.takeWhile p ++ s.dropWhile p).drop (s.takeWhile p).length = s.dropWhile p :=
    List.drop_left
  rwa [List.takeWhile_append_dropWhile] at h

/-- A run of characters of one kind does not go on into a text that starts with none. -/
theorem takeWhile_append_of_stop {p : Char → Bool} (hb : ∀ c ∈ b.head?, p c = false)
    (a : List Char) : (a ++ b).takeWhile p = a.takeWhile p := by
  induction a with
  | nil =>
    cases b with
    | nil => rfl
    | cons c r => exact List.takeWhile_cons_of_neg (by simp [hb c rfl])
  | cons c a ih => rw [List.cons_append, List.takeWhile_cons, List.takeWhile_cons, ih]

/-- What follows a run of characters of one kind does not start with another one. -/
theorem dropWhile_stop (p : Char → Bool) (s : List Char) :
    ∀ c ∈ (s.dropWhile p).head?, p c = false := by
  intro c hc
  have h := List.head?_dropWhile_not p s
  rwa [hc] at h

/-! ## The start of a text -/

@[simp] theorem not_startsInk_nil : ¬ StartsInk [] := by simp [StartsInk]

@[simp] theorem startsInk_cons : StartsInk (c :: s) ↔ isBlank c = false := by simp [StartsInk]

instance : DecidablePred StartsInk
  | [] => isFalse not_startsInk_nil
  | c :: _ => decidable_of_iff (isBlank c = false) startsInk_cons.symm

theorem StartsInk.ne_nil (h : StartsInk s) : s ≠ [] := by
  rintro rfl
  exact not_startsInk_nil h

theorem StartsInk.exists_cons (h : StartsInk s) : ∃ c r, s = c :: r ∧ isBlank c = false := by
  obtain ⟨c, r, rfl⟩ := List.exists_cons_of_ne_nil h.ne_nil
  exact ⟨c, r, rfl, startsInk_cons.1 h⟩

theorem StartsInk.append (h : StartsInk a) (b : List Char) : StartsInk (a ++ b) := by
  obtain ⟨c, r, rfl, hc⟩ := h.exists_cons
  exact startsInk_cons.2 hc

theorem StartsInk.trimStart_eq (h : StartsInk s) : trimStart s = s := by
  obtain ⟨c, hc, hb⟩ := h
  refine trimStart_of_head? fun x hx => ?_
  obtain rfl : c = x := Option.mem_unique hc hx
  exact hb

/-- What is left behind the white space in front starts with ink. -/
theorem trimStart_eq_nil_or_startsInk (s : List Char) :
    trimStart s = [] ∨ StartsInk (trimStart s) := by
  cases h : trimStart s with
  | nil => exact Or.inl rfl
  | cons c r =>
    have hhead := List.head?_dropWhile_not isBlank s
    rw [trimStart] at h
    rw [h] at hhead
    exact Or.inr (startsInk_cons.2 hhead)

theorem leading_append (h : isBlankText a = true) (b : List Char) :
    leading (a ++ b) = a ++ leading b :=
  List.takeWhile_append_of_pos (List.all_eq_true.1 h)

theorem StartsInk.leading_eq (h : StartsInk s) : leading s = [] := by
  have hs := leading_append_trimStart s
  rw [h.trimStart_eq] at hs
  exact List.append_cancel_right (hs.trans (List.nil_append s).symm)

theorem leading_of_isBlankText (h : isBlankText s = true) : leading s = s := by
  have happend := leading_append h []
  rwa [show leading [] = [] from rfl, List.append_nil] at happend

theorem isBlankText_leading (s : List Char) : isBlankText (leading s) = true :=
  List.all_takeWhile

/-! ## The end of a text -/

@[simp] theorem not_endsInk_nil : ¬ EndsInk [] := by simp [EndsInk]

theorem EndsInk.ne_nil (h : EndsInk s) : s ≠ [] := by
  rintro rfl
  exact not_endsInk_nil h

theorem endsInk_append_iff (a : List Char) (h : b ≠ []) : EndsInk (a ++ b) ↔ EndsInk b := by
  rw [EndsInk, EndsInk, List.getLast?_append_of_ne_nil a h]

theorem EndsInk.append (h : EndsInk b) (a : List Char) : EndsInk (a ++ b) :=
  (endsInk_append_iff a h.ne_nil).2 h

theorem endsInk_concat : EndsInk (a ++ [c]) ↔ isBlank c = false := by simp [EndsInk]

theorem EndsInk.exists_concat (h : EndsInk s) : ∃ r c, s = r ++ [c] ∧ isBlank c = false := by
  obtain ⟨c, hc, hblank⟩ := h
  obtain ⟨r, rfl⟩ := List.getLast?_eq_some_iff.1 hc
  exact ⟨r, c, rfl, hblank⟩

theorem endsInk_of_forall (hne : s ≠ []) (h : ∀ c ∈ s, isBlank c = false) : EndsInk s :=
  ⟨s.getLast hne, List.getLast?_eq_some_getLast hne, h _ (List.getLast_mem hne)⟩

theorem EndsInk.trimEnd_eq (h : EndsInk s) : trimEnd s = s := by
  obtain ⟨c, hc, hb⟩ := h
  refine trimEnd_of_getLast? fun x hx => ?_
  obtain rfl : c = x := Option.mem_unique hc hx
  exact hb

/-- A text that ends with ink is not blank. -/
theorem EndsInk.startsInk_trimStart (h : EndsInk s) : StartsInk (trimStart s) := by
  refine (trimStart_eq_nil_or_startsInk s).resolve_left fun hnil => ?_
  obtain ⟨c, hc, hb⟩ := h
  rw [trimStart_eq_nil_iff] at hnil
  rw [List.all_eq_true.1 hnil c (List.mem_of_mem_getLast? hc)] at hb
  cases hb

theorem endsInk_trimStart : EndsInk (trimStart s) ↔ EndsInk s := by
  constructor
  · intro h
    rw [← leading_append_trimStart s]
    exact h.append _
  · intro h
    have hne := h.startsInk_trimStart.ne_nil
    rwa [← leading_append_trimStart s, endsInk_append_iff _ hne] at h

theorem startsInk_reverse : StartsInk s.reverse ↔ EndsInk s := by
  rw [StartsInk, EndsInk, List.head?_reverse]

instance : DecidablePred EndsInk := fun _ => decidable_of_iff _ startsInk_reverse

/-- What is left in front of the white space at the end ends with ink. -/
theorem trimEnd_eq_nil_or_endsInk (s : List Char) : trimEnd s = [] ∨ EndsInk (trimEnd s) := by
  rw [trimEnd, List.reverse_eq_nil_iff, ← startsInk_reverse, List.reverse_reverse]
  exact trimStart_eq_nil_or_startsInk s.reverse

theorem trimEnd_eq_self_iff : trimEnd s = s ↔ s = [] ∨ EndsInk s := by
  constructor
  · intro h
    rw [← h]
    exact trimEnd_eq_nil_or_endsInk s
  · rintro (rfl | h)
    · rfl
    · exact h.trimEnd_eq

/-- Only white space goes when the end of a text is trimmed. -/
theorem exists_trimEnd_append (s : List Char) :
    ∃ b, isBlankText b = true ∧ trimEnd s ++ b = s := by
  refine ⟨(leading s.reverse).reverse, ?_, ?_⟩
  · rw [isBlankText, List.all_reverse]
    exact isBlankText_leading _
  · have h := leading_append_trimStart s.reverse
    rw [trimEnd, ← List.reverse_append]
    show (leading s.reverse ++ trimStart s.reverse).reverse = s
    rw [h, List.reverse_reverse]

/-- A text keeps the white space in front when its end is trimmed, unless nothing else is in it. -/
theorem trimEnd_eq_nil_or_leading_trimEnd (s : List Char) :
    trimEnd s = [] ∨ leading (trimEnd s) = leading s := by
  obtain ⟨b, -, hs⟩ := exists_trimEnd_append s
  refine (trimEnd_eq_nil_or_endsInk s).imp_right fun h => ?_
  have hstart := h.startsInk_trimStart.append b
  conv_rhs => rw [← hs, ← leading_append_trimStart (Text.trimEnd s), List.append_assoc,
    leading_append (isBlankText_leading _), hstart.leading_eq, List.append_nil]

theorem isBlankText_trimEnd (h : isBlankText s = true) : isBlankText (trimEnd s) = true := by
  obtain ⟨b, -, hs⟩ := exists_trimEnd_append s
  rw [← hs, isBlankText, List.all_append, Bool.and_eq_true] at h
  exact h.1

theorem StartsInk.trimEnd (h : StartsInk s) : StartsInk (trimEnd s) := by
  obtain ⟨b, hb, hs⟩ := exists_trimEnd_append s
  cases ht : Text.trimEnd s with
  | nil =>
    -- a text that starts with ink is not blank
    rw [ht, List.nil_append] at hs
    rw [← hs] at h
    obtain ⟨c, r, rfl, hc⟩ := h.exists_cons
    rw [isBlankText, List.all_cons, hc] at hb
    cases hb
  | cons c r =>
    rw [← hs, ht] at h
    exact h

/-- A text without white space around it. -/
def Trimmed (s : List Char) : Prop := s = [] ∨ StartsInk s ∧ EndsInk s

instance : DecidablePred Trimmed := fun s =>
  inferInstanceAs (Decidable (s = [] ∨ StartsInk s ∧ EndsInk s))

theorem trimmed_trim (s : List Char) : Trimmed (trim s) := by
  rw [trim]
  rcases trimStart_eq_nil_or_startsInk s with h | h
  · rw [h]
    exact Or.inl rfl
  · rcases trimEnd_eq_nil_or_endsInk (trimStart s) with he | he
    · exact Or.inl he
    · exact Or.inr ⟨h.trimEnd, he⟩

theorem Trimmed.getLast?_ne_lineFeed (h : Trimmed s) : s.getLast? ≠ some '\n' := by
  rcases h with rfl | ⟨-, c, hc, hblank⟩
  · exact nofun
  · rw [Option.mem_def.1 hc]
    rintro ⟨⟩
    cases hblank

/-- White space around a trimmed text is all that trimming takes. -/
theorem Trimmed.trim_between (h : Trimmed s) (ha : isBlankText a = true)
    (hb : isBlankText b = true) : trim (a ++ s ++ b) = s := by
  apply trim_around ha hb
  · intro c hc
    rcases h with rfl | ⟨⟨x, hx, hblank⟩, -⟩
    · cases hc
    · obtain rfl : x = c := Option.mem_unique hx hc
      exact hblank
  · intro c hc
    rcases h with rfl | ⟨-, x, hx, hblank⟩
    · cases hc
    · obtain rfl : x = c := Option.mem_unique hx hc
      exact hblank

/-- Trimming takes white space at both ends and nothing else. -/
theorem exists_trim_between (s : List Char) :
    ∃ a b, isBlankText a = true ∧ isBlankText b = true ∧ s = a ++ trim s ++ b := by
  obtain ⟨b, hb, hs⟩ := exists_trimEnd_append (trimStart s)
  refine ⟨leading s, b, isBlankText_leading s, hb, ?_⟩
  rw [trim, List.append_assoc, hs, leading_append_trimStart]

/-- White space around a text does not matter to what trimming leaves of it. -/
theorem trim_append_append (ha : isBlankText a = true) (s : List Char)
    (hb : isBlankText b = true) : trim (a ++ s ++ b) = trim s := by
  obtain ⟨a', b', ha', hb', hs⟩ := exists_trim_between s
  have hfront : isBlankText (a ++ a') = true := by
    rw [isBlankText, List.all_append, Bool.and_eq_true]
    exact ⟨ha, ha'⟩
  have hback : isBlankText (b' ++ b) = true := by
    rw [isBlankText, List.all_append, Bool.and_eq_true]
    exact ⟨hb', hb⟩
  have htext : a ++ s ++ b = (a ++ a') ++ trim s ++ (b' ++ b) := by
    conv_lhs => rw [hs]
    simp only [List.append_assoc]
  rw [htext]
  exact (trimmed_trim s).trim_between hfront hback

theorem trim_eq_nil_iff : trim s = [] ↔ isBlankText s = true := by
  constructor
  · intro h
    obtain ⟨a, b, ha, hb, hs⟩ := exists_trim_between s
    rw [h, List.append_nil] at hs
    rw [hs, isBlankText, List.all_append, Bool.and_eq_true]
    exact ⟨ha, hb⟩
  · intro h
    rw [trim, (trimStart_eq_nil_iff s).2 h]
    rfl

/-- White space behind a trimmed text is all that trimming takes. -/
theorem Trimmed.trim_append (h : Trimmed s) (hb : isBlankText b = true) : trim (s ++ b) = s := by
  rcases h with rfl | ⟨hstart, hends⟩
  · rw [List.nil_append, trim, (trimStart_eq_nil_iff b).2 hb]
    rfl
  · rw [trim, (hstart.append b).trimStart_eq, trimEnd_append hb, hends.trimEnd_eq]

/-! ## The ink of a text -/

@[simp] theorem ink_nil : ink [] = [] := rfl

@[simp] theorem ink_append (a b : List Char) : ink (a ++ b) = ink a ++ ink b :=
  List.filter_append a b

theorem ink_cons_of_blank (h : isBlank c = true) (s : List Char) : ink (c :: s) = ink s :=
  List.filter_cons_of_neg (by simp [h])

theorem ink_cons_of_not_blank (h : isBlank c = false) (s : List Char) : ink (c :: s) = c :: ink s :=
  List.filter_cons_of_pos (by simp [h])

theorem ink_of_isBlankText (h : isBlankText s = true) : ink s = [] :=
  List.filter_eq_nil_iff.2 fun c hc => by simp [List.all_eq_true.1 h c hc]

theorem ink_trimStart (s : List Char) : ink (trimStart s) = ink s := by
  conv_rhs => rw [← leading_append_trimStart s, ink_append,
    ink_of_isBlankText (isBlankText_leading s), List.nil_append]

theorem ink_trimEnd (s : List Char) : ink (trimEnd s) = ink s := by
  obtain ⟨b, hb, hs⟩ := exists_trimEnd_append s
  conv_rhs => rw [← hs, ink_append, ink_of_isBlankText hb, List.append_nil]

/-- Trimming a text keeps its ink. -/
theorem ink_trim (s : List Char) : ink (trim s) = ink s := by
  rw [trim, ink_trimEnd, ink_trimStart]

end HamlServer.Text
