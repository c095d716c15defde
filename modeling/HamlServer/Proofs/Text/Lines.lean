import HamlServer.Proofs.Text.Cut
import HamlServer.Proofs.Text.Ink
import HamlServer.Text.Line

/-!
# Lines and their join

Cutting a text into lines and joining lines undo each other as long as no line holds a line feed.  A
line feed and a carriage return are white space, so the ink of a text is the ink of its lines.

* `lines_flatMap`: the lines of a text that is made up of lines.
* `ink_joinLines`: the ink of joined lines.
-/

namespace HamlServer.Text

variable {l s : List Char} {ls : List (List Char)}

/-! ## Joining -/

theorem mem_intercalate {sep : List Char} {c : Char} (h : c ∈ List.intercalate sep ls) :
    c ∈ sep ∨ ∃ l ∈ ls, c ∈ l := by
  induction ls with
  | nil => cases h
  | cons l ls ih =>
    cases ls with
    | nil =>
      rw [List.intercalate_singleton] at h
      exact Or.inr ⟨l, List.mem_cons_self, h⟩
    | cons l' ls =>
      rw [List.intercalate_cons_cons, List.mem_append, List.mem_append] at h
      rcases h with (h | h) | h
      · exact Or.inr ⟨l, List.mem_cons_self, h⟩
      · exact Or.inl h
      · rcases ih h with h | ⟨x, hx, h⟩
        · exact Or.inl h
        · exact Or.inr ⟨x, List.mem_cons_of_mem _ hx, h⟩

theorem joinLines_cons_cons (l l' : List Char) (ls : List (List Char)) :
    joinLines (l :: l' :: ls) = l ++ '\n' :: joinLines (l' :: ls) := by
  rw [joinLines, List.intercalate_cons_cons, List.append_assoc]
  rfl

@[simp] theorem joinLines_singleton (l : List Char) : joinLines [l] = l :=
  List.intercalate_singleton

theorem sublist_joinLines (h : l ∈ ls) : l.Sublist (joinLines ls) := by
  induction ls with
  | nil => cases h
  | cons l' ls ih =>
    cases ls with
    | nil =>
      rw [joinLines_singleton, List.mem_singleton.1 h]
    | cons l'' ls =>
      rw [joinLines_cons_cons]
      rcases List.mem_cons.1 h with rfl | h
      · exact List.sublist_append_left l _
      · exact ((ih h).cons '\n').trans (List.sublist_append_right l' _)

theorem joinLines_splitOn (s : List Char) : joinLines (s.splitOn '\n') = s :=
  List.intercalate_splitOn '\n'

theorem ink_joinLines (ls : List (List Char)) : ink (joinLines ls) = ls.flatMap ink := by
  induction ls with
  | nil => rfl
  | cons l ls ih =>
    cases ls with
    | nil => simp
    | cons l' ls =>
      rw [joinLines_cons_cons, ink_append, ink_cons_of_blank rfl, ih, ← List.flatMap_cons]

theorem startsInk_joinLines : StartsInk (joinLines (l :: ls)) ↔ StartsInk l := by
  cases ls with
  | nil => rw [joinLines_singleton]
  | cons l' ls =>
    rw [joinLines_cons_cons]
    cases l with
    | nil => simp [show isBlank '\n' = true from rfl]
    | cons c l => simp

theorem endsInk_joinLines : EndsInk (joinLines (ls ++ [l])) ↔ EndsInk l := by
  induction ls with
  | nil => rw [List.nil_append, joinLines_singleton]
  | cons l' ls ih =>
    obtain ⟨x, xs, hx⟩ := List.exists_cons_of_ne_nil
      (List.append_ne_nil_of_right_ne_nil ls (List.cons_ne_nil l []))
    rw [List.cons_append, hx, joinLines_cons_cons, ← hx, endsInk_append_iff _ (by simp), ← ih]
    cases hj : joinLines (ls ++ [l]) with
    | nil => simp [EndsInk, show isBlank '\n' = true from rfl]
    | cons c r =>
      rw [← List.singleton_append, endsInk_append_iff _ (by simp)]

/-! ## Carriage returns -/

theorem stripReturn_of_getLast? (h : l.getLast? ≠ some '\r') : stripReturn l = l := by
  rw [stripReturn, dropLast?, if_neg h, Option.getD_none]

theorem stripReturn_of_notMem (h : '\r' ∉ l) : stripReturn l = l :=
  stripReturn_of_getLast? fun hlast => h (List.mem_of_getLast? hlast)

theorem stripReturn_of_endsInk (h : EndsInk l) : stripReturn l = l := by
  obtain ⟨c, hc, hb⟩ := h
  refine stripReturn_of_getLast? ?_
  rw [Option.mem_def.1 hc]
  rintro ⟨⟩
  cases hb

theorem stripReturn_concat (l : List Char) (c : Char) :
    stripReturn (l ++ [c]) = if c = '\r' then l else l ++ [c] := by
  split
  · next hc => rw [stripReturn, dropLast?, List.getLast?_concat, hc, if_pos rfl,
      List.dropLast_concat, Option.getD_some]
  · next hc =>
    refine stripReturn_of_getLast? fun hlast => hc ?_
    rwa [List.getLast?_concat, Option.some_inj] at hlast

theorem ink_stripReturn (l : List Char) : ink (stripReturn l) = ink l := by
  rw [stripReturn, dropLast?]
  split
  · next h =>
    obtain ⟨r, rfl⟩ : ∃ r, l = r ++ ['\r'] := List.getLast?_eq_some_iff.1 h
    rw [List.dropLast_concat, Option.getD_some, ink_append]
    exact (List.append_nil _).symm
  · rfl

theorem mem_of_mem_stripReturn {c : Char} (h : c ∈ stripReturn l) : c ∈ l := by
  rw [stripReturn, dropLast?] at h
  split at h
  · exact (List.dropLast_sublist l).mem h
  · exact h

theorem startsInk_stripReturn (h : StartsInk l) : StartsInk (stripReturn l) := by
  obtain ⟨c, r, rfl, hc⟩ := h.exists_cons
  rw [stripReturn, dropLast?]
  split
  · next hlast =>
    cases r with
    | nil =>
      obtain rfl : c = '\r' := by simpa using hlast
      cases hc
    | cons c' r => exact h
  · exact h

/-! ## Cutting -/

theorem docLines_ne_nil (s : List Char) : docLines s ≠ [] := by
  rw [docLines, ne_eq, List.map_eq_nil_iff]
  exact List.splitOn_ne_nil '\n' s

theorem lineFeed_notMem_splitOn (h : l ∈ s.splitOn '\n') : '\n' ∉ l := (of_mem_splitOn h).1

theorem lineFeed_notMem_docLines (h : l ∈ docLines s) : '\n' ∉ l := by
  obtain ⟨piece, hp, rfl⟩ := List.mem_map.1 h
  exact fun hm => lineFeed_notMem_splitOn hp (mem_of_mem_stripReturn hm)

theorem mem_of_mem_docLines {c : Char} (hl : l ∈ docLines s) (h : c ∈ l) : c ∈ s := by
  obtain ⟨piece, hpiece, rfl⟩ := List.mem_map.1 hl
  rw [← joinLines_splitOn s]
  exact (sublist_joinLines hpiece).mem (mem_of_mem_stripReturn h)

/-- Lines that are each ended by a line feed are the lines of the text they make up. -/
theorem lines_flatMap (h : ∀ l ∈ ls, '\n' ∉ l) :
    lines (ls.flatMap (· ++ ['\n'])) = ls.map stripReturn := by
  have hjoin : ls.flatMap (· ++ ['\n']) = joinLines (ls ++ [[]]) := by
    clear h
    induction ls with
    | nil => rfl
    | cons l ls ih =>
      obtain ⟨x, xs, hx⟩ := List.exists_cons_of_ne_nil
        (List.append_ne_nil_of_right_ne_nil ls (List.cons_ne_nil [] []))
      rw [List.flatMap_cons, ih, List.cons_append, hx, joinLines_cons_cons, List.append_assoc]
      rfl
  have hsplit : (joinLines (ls ++ [[]])).splitOn '\n' = ls ++ [[]] := by
    refine List.splitOn_intercalate '\n' (fun l hl => ?_) (by simp)
    rcases List.mem_append.1 hl with hl | hl
    · exact h l hl
    · rw [List.mem_singleton.1 hl]
      exact List.not_mem_nil
  rw [lines, hjoin, hsplit, List.getLastD_concat, List.dropLast_concat, if_pos rfl]

/-- The ink of a text is the ink of its lines. -/
theorem flatMap_ink_docLines (s : List Char) : (docLines s).flatMap ink = ink s := by
  conv_rhs => rw [← joinLines_splitOn s, ink_joinLines]
  rw [docLines, List.flatMap_map]
  exact List.flatMap_congr fun l _ => ink_stripReturn l

theorem flatMap_joinLines {f : Char → List Char} (hfeed : f '\n' = ['\n'])
    (ls : List (List Char)) : (joinLines ls).flatMap f = joinLines (ls.map (·.flatMap f)) := by
  induction ls with
  | nil => rfl
  | cons l ls ih =>
    cases ls with
    | nil => simp
    | cons l' ls =>
      rw [joinLines_cons_cons, List.flatMap_append, List.flatMap_cons, hfeed, ih]
      simp only [List.map_cons, joinLines_cons_cons, List.singleton_append]

/-- Where each character of a text is replaced, its lines are those with their characters replaced,
as long as line feeds stay and no other character brings one in. -/
theorem splitOn_flatMap {f : Char → List Char} (hfeed : f '\n' = ['\n'])
    (hf : ∀ c, c ≠ '\n' → '\n' ∉ f c) (s : List Char) :
    (s.flatMap f).splitOn '\n' = (s.splitOn '\n').map (·.flatMap f) := by
  conv_lhs => rw [← joinLines_splitOn s, flatMap_joinLines hfeed, joinLines]
  refine List.splitOn_intercalate '\n' (fun l hl => ?_) (by simp)
  obtain ⟨piece, hpiece, rfl⟩ := List.mem_map.1 hl
  rw [List.mem_flatMap]
  rintro ⟨c, hc, hmem⟩
  exact hf c (fun he => lineFeed_notMem_splitOn hpiece (he ▸ hc)) hmem

/-- A text that starts with ink has a first line that does. -/
theorem startsInk_head_docLines (h : StartsInk s) : ∃ l ls, docLines s = l :: ls ∧ StartsInk l := by
  obtain ⟨p, ps, hp⟩ := List.exists_cons_of_ne_nil (List.splitOn_ne_nil '\n' s)
  refine ⟨stripReturn p, ps.map stripReturn, by rw [docLines, hp, List.map_cons], ?_⟩
  rw [← joinLines_splitOn s, hp, startsInk_joinLines] at h
  exact startsInk_stripReturn h

/-- A text that ends with ink has a last line that does. -/
theorem endsInk_getLast_docLines (h : EndsInk s) :
    ∃ ls l, docLines s = ls ++ [l] ∧ EndsInk l := by
  rcases List.eq_nil_or_concat (s.splitOn '\n') with hnil | ⟨ps, p, hp⟩
  · exact absurd hnil (List.splitOn_ne_nil '\n' s)
  · rw [List.concat_eq_append] at hp
    rw [← joinLines_splitOn s, hp, endsInk_joinLines] at h
    refine ⟨ps.map stripReturn, p, ?_, h⟩
    rw [docLines, hp, List.map_append, List.map_singleton, stripReturn_of_endsInk h]

end HamlServer.Text
