import HamlServer.Proofs.Text.Lines
import HamlServer.Text.Position

/-!
# Slices of a document

A slice is cut out of the lines of a document: the first line loses what stands in front of the
start column, and the last what stands behind the end column.  Read from the front of the document,
the slice up to a position goes on with the slice from there, so slices that meet make up one slice.

* `takeUnits_takeUnits`: of two columns the smaller one cuts.
* `textBetween_append`: the text up to a place, and from there on.
* `slice_additive`: slices that meet, the slice in front of a column, and that of the full range.
-/

namespace HamlServer.Text

variable {content line : List Char} {ls : List (List Char)} {l l' m n c c' : Nat}

/-! ## Columns -/

theorem unitSize_pos (c : Char) : 0 < unitSize c := by
  unfold unitSize
  split <;> omega

@[simp] theorem takeUnits_zero (line : List Char) : takeUnits 0 line = [] := by
  cases line with
  | nil => rfl
  | cons c r =>
    have hpos := unitSize_pos c
    rw [takeUnits, if_neg (by omega)]

@[simp] theorem dropUnits_zero (line : List Char) : dropUnits 0 line = line := by
  have h := takeUnits_append_dropUnits 0 line
  rwa [takeUnits_zero, List.nil_append] at h

/-- A column at the end of a line or behind it stands for the end. -/
theorem takeUnits_of_units_le (h : units line ≤ n) : takeUnits n line = line := by
  induction line generalizing n with
  | nil => rfl
  | cons c r ih =>
    rw [units] at h
    rw [takeUnits, if_pos (by omega), ih (by omega)]

/-- Of two columns the smaller one cuts, also where one of them lies inside a character. -/
theorem takeUnits_takeUnits (h : m ≤ n) (line : List Char) :
    takeUnits m (takeUnits n line) = takeUnits m line := by
  induction line generalizing m n with
  | nil => rfl
  | cons c r ih =>
    by_cases hm : unitSize c ≤ m
    · rw [takeUnits, if_pos (Nat.le_trans hm h), takeUnits, takeUnits, if_pos hm, if_pos hm,
        ih (Nat.sub_le_sub_right h _)]
    · rw [takeUnits]
      split
      · rw [takeUnits, takeUnits, if_neg hm, if_neg hm]
      · rw [takeUnits, takeUnits, if_neg hm]

theorem takeUnits_append_dropUnits_takeUnits (h : m ≤ n) (line : List Char) :
    takeUnits m line ++ dropUnits m (takeUnits n line) = takeUnits n line := by
  rw [← takeUnits_takeUnits h, takeUnits_append_dropUnits]

/-! ## Between two places -/

/-- The text of some lines from a line and column up to another, its lines joined. -/
def textBetween (ls : List (List Char)) (l c l' c' : Nat) : List Char :=
  joinLines ((((ls.drop l).take (l' - l + 1)).modify (l' - l) (takeUnits c')).modify 0
    (dropUnits c))

theorem textBetween_nil (l c l' c' : Nat) : textBetween [] l c l' c' = [] := by
  simp [textBetween, joinLines]

theorem textBetween_succ (line : List Char) (ls : List (List Char)) (l c l' c' : Nat) :
    textBetween (line :: ls) (l + 1) c (l' + 1) c' = textBetween ls l c l' c' := by
  rw [textBetween, List.drop_succ_cons, Nat.add_sub_add_right]
  rfl

theorem textBetween_zero (line : List Char) (ls : List (List Char)) (c c' : Nat) :
    textBetween (line :: ls) 0 c 0 c' = dropUnits c (takeUnits c' line) := by
  simp [textBetween]

/-- From the first line into a later one: the rest of the first line, and what follows it up to the
end. -/
theorem textBetween_zero_succ (line : List Char) (ls : List (List Char)) (c l' c' : Nat) :
    textBetween (line :: ls) 0 c (l' + 1) c' =
      dropUnits c line ++ if ls = [] then [] else '\n' :: textBetween ls 0 0 l' c' := by
  cases ls with
  | nil => simp [textBetween]
  | cons line' ls =>
    rw [if_neg (List.cons_ne_nil _ _)]
    cases l' with
    | zero => simp [textBetween, joinLines_cons_cons]
    | succ l' => simp [textBetween, joinLines_cons_cons]

/-- The text up to a place goes on with the text from there. -/
theorem textBetween_append (h : l < l' ∨ l = l' ∧ c ≤ c') :
    textBetween ls 0 0 l c ++ textBetween ls l c l' c' = textBetween ls 0 0 l' c' := by
  induction ls generalizing l l' with
  | nil => simp only [textBetween_nil, List.append_nil]
  | cons line ls ih =>
    cases l with
    | zero =>
      cases l' with
      | zero =>
        have hle : c ≤ c' := by omega
        rw [textBetween_zero, textBetween_zero, textBetween_zero, dropUnits_zero, dropUnits_zero,
          takeUnits_append_dropUnits_takeUnits hle]
      | succ l' =>
        rw [textBetween_zero, textBetween_zero_succ, textBetween_zero_succ, dropUnits_zero,
          dropUnits_zero, ← List.append_assoc, takeUnits_append_dropUnits]
    | succ l =>
      obtain ⟨l', rfl⟩ : ∃ k, l' = k + 1 := ⟨l' - 1, by omega⟩
      rw [textBetween_zero_succ, textBetween_succ, textBetween_zero_succ, List.append_assoc]
      split
      · next hnil => rw [hnil, textBetween_nil, List.append_nil]
      · rw [List.cons_append, ih (by omega)]

/-- A slice within one line. -/
theorem textBetween_self (h : ls[l]? = some line) :
    textBetween ls l c l c' = dropUnits c (takeUnits c' line) := by
  induction ls generalizing l with
  | nil => cases h
  | cons first ls ih =>
    cases l with
    | zero =>
      obtain rfl : first = line := Option.some.inj h
      exact textBetween_zero first ls c c'
    | succ l =>
      rw [textBetween_succ]
      exact ih h

/-- The text up to the end of the last line is all of it. -/
theorem textBetween_last (ls : List (List Char)) (h : units line ≤ c') :
    textBetween (ls ++ [line]) 0 0 ls.length c' = joinLines (ls ++ [line]) := by
  induction ls with
  | nil => rw [List.nil_append, List.length_nil, textBetween_zero, dropUnits_zero,
      takeUnits_of_units_le h, joinLines_singleton]
  | cons first ls ih =>
    obtain ⟨x, xs, hx⟩ := List.exists_cons_of_ne_nil
      (List.append_ne_nil_of_right_ne_nil ls (List.cons_ne_nil line []))
    rw [List.cons_append, List.length_cons, textBetween_zero_succ, dropUnits_zero, ih, hx,
      if_neg (List.cons_ne_nil x xs), joinLines_cons_cons]

/-! ## Slices -/

/-- Of two positions, the first does not come behind the second. -/
theorem before_eq_false_iff {p q : Position} : q.before p = false ↔
    p.line.toNat < q.line.toNat ∨
      p.line.toNat = q.line.toNat ∧ p.character.toNat ≤ q.character.toNat := by
  simp only [Position.before, Bool.or_eq_false_iff, Bool.and_eq_false_iff, decide_eq_false_iff_not,
    beq_eq_false_iff_ne, ne_eq, UInt32.lt_iff_toNat_lt, ← UInt32.toNat_inj]
  omega

theorem slice_eq_textBetween {p q : Position} (h : q.before p = false) (content : List Char) :
    slice content ⟨p, q⟩ = textBetween (docLines content) p.line.toNat p.character.toNat
      q.line.toNat q.character.toNat := by
  have hsplit : ¬ q.before p = true := by simp [h]
  rw [slice, if_neg hsplit]
  rfl

/-- Slices that meet make up one slice. -/
theorem slice_append_slice {p q r : Position} (hpq : q.before p = false)
    (hqr : r.before q = false) (content : List Char) :
    slice content ⟨p, q⟩ ++ slice content ⟨q, r⟩ = slice content ⟨p, r⟩ := by
  have hle := before_eq_false_iff.1 hpq
  have hle' := before_eq_false_iff.1 hqr
  have hpr : r.before p = false := before_eq_false_iff.2 (by omega)
  rw [slice_eq_textBetween hpq, slice_eq_textBetween hqr, slice_eq_textBetween hpr]
  -- both sides go on from the text up to the first position
  apply List.append_cancel_left
  rw [← List.append_assoc, textBetween_append hle, textBetween_append hle',
    textBetween_append (before_eq_false_iff.1 hpr)]

/-- The text in front of a column is the slice from the start of the line. -/
theorem linePrefix_eq_slice {p : Position} (h : lineAt content p.line = some line) :
    linePrefix content p = some (slice content ⟨⟨p.line, 0⟩, p⟩) := by
  have hstart : p.before ⟨p.line, 0⟩ = false :=
    before_eq_false_iff.2 (Or.inr ⟨rfl, Nat.zero_le _⟩)
  rw [linePrefix, h, Option.map_some, slice_eq_textBetween hstart]
  show _ = some (textBetween (docLines content) p.line.toNat 0 p.line.toNat _)
  rw [textBetween_self h, dropUnits_zero]

/-! ## The full range -/

theorem toNat_line_fullRange (h : (content.splitOn '\n').length < UInt32.size) :
    (fullRange content).stop.line.toNat = (content.splitOn '\n').length - 1 := by
  show (UInt32.ofNat ((content.splitOn '\n').length - 1)).toNat = _
  rw [UInt32.toNat_ofNat_of_lt']
  show _ < UInt32.size
  omega

theorem toNat_character_fullRange {t : List Char} (ht : (content.splitOn '\n').getLast? = some t)
    (h : units t < UInt32.size) : (fullRange content).stop.character.toNat = units t := by
  show (UInt32.ofNat (units ((content.splitOn '\n').getLastD []))).toNat = _
  rw [List.getLastD_eq_getLast?, ht, Option.getD_some, UInt32.toNat_ofNat_of_lt']
  exact h

theorem units_append (a b : List Char) : units (a ++ b) = units a + units b := by
  induction a with
  | nil => rw [List.nil_append, units, Nat.zero_add]
  | cons c a ih => rw [List.cons_append, units, units, ih, Nat.add_assoc]

theorem units_stripReturn_le (line : List Char) : units (stripReturn line) ≤ units line := by
  rw [stripReturn, dropLast?]
  split
  · next h =>
    obtain ⟨r, rfl⟩ := List.getLast?_eq_some_iff.1 h
    rw [List.dropLast_concat, Option.getD_some, units_append]
    omega
  · exact Nat.le_refl _

/-- The full range covers all lines. -/
theorem slice_fullRange (hlines : (content.splitOn '\n').length < UInt32.size)
    (hunits : ∀ piece ∈ content.splitOn '\n', units piece < UInt32.size) :
    slice content (fullRange content) = joinLines (docLines content) := by
  obtain hnil | ⟨front, last, hsplit⟩ := List.eq_nil_or_concat (content.splitOn '\n')
  · exact absurd hnil (List.splitOn_ne_nil '\n' content)
  · rw [List.concat_eq_append] at hsplit
    have hline := toNat_line_fullRange hlines
    rw [hsplit, List.length_append, List.length_singleton, Nat.add_sub_cancel] at hline
    have hcolumn := toNat_character_fullRange (by rw [hsplit, List.getLast?_concat])
      (hunits last (by simp [hsplit]))
    have hstart : (fullRange content).stop.before ⟨0, 0⟩ = false :=
      before_eq_false_iff.2 (by
        show 0 < _ ∨ 0 = _ ∧ 0 ≤ _
        omega)
    have hdoc : docLines content = front.map stripReturn ++ [stripReturn last] := by
      rw [docLines, hsplit, List.map_append, List.map_singleton]
    calc slice content (fullRange content)
        = textBetween (docLines content) 0 0 front.length (units last) := by
          rw [← hline, ← hcolumn]
          exact slice_eq_textBetween hstart content
      _ = joinLines (docLines content) := by
          have hlast := textBetween_last (front.map stripReturn)
            (units_stripReturn_le last)
          rwa [List.length_map, ← hdoc] at hlast

theorem joinLines_docLines (h : '\r' ∉ content) : joinLines (docLines content) = content := by
  have hsame : docLines content = content.splitOn '\n' := by
    refine (List.map_congr_left fun piece hpiece => ?_).trans (List.map_id _)
    refine stripReturn_of_notMem fun hmem => h ?_
    rw [← joinLines_splitOn content]
    exact (sublist_joinLines hpiece).mem hmem
  rw [hsame, joinLines_splitOn]

/-- **Slices of a document.**  Two slices that meet make up one; the text of a line in front of a
column is a slice; and the slice of the full range is the document with a carriage return at the end
of each line left out. -/
theorem slice_additive (content : List Char) :
    (∀ p q r : Position, q.before p = false → r.before q = false →
      slice content ⟨p, r⟩ = slice content ⟨p, q⟩ ++ slice content ⟨q, r⟩) ∧
    (∀ p line, lineAt content p.line = some line →
      linePrefix content p = some (slice content ⟨⟨p.line, 0⟩, p⟩)) ∧
    ((content.splitOn '\n').length < UInt32.size →
      (∀ piece ∈ content.splitOn '\n', units piece < UInt32.size) →
      slice content (fullRange content) = joinLines ((content.splitOn '\n').map stripReturn) ∧
        ('\r' ∉ content → slice content (fullRange content) = content)) := by
  refine ⟨fun p q r hpq hqr => (slice_append_slice hpq hqr content).symm,
    fun p line => linePrefix_eq_slice, fun hlines hunits => ?_⟩
  have hfull := slice_fullRange hlines hunits
  exact ⟨hfull, fun hreturn => hfull.trans (joinLines_docLines hreturn)⟩

/-- Positions inside a character of two units, and one behind the end of the document. -/
theorem slice_additive_pair :
    let content := ['%', 'p', '😀', '\r', '\n', 'b']
    let p : Position := ⟨0, 1⟩
    let q : Position := ⟨0, 3⟩
    let r : Position := ⟨7, 2⟩
    q.before p = false ∧ r.before q = false ∧ lineAt content q.line = some ['%', 'p', '😀'] ∧
      (content.splitOn '\n').length < UInt32.size ∧
      (∀ piece ∈ content.splitOn '\n', units piece < UInt32.size) ∧
      slice content ⟨p, r⟩ = ['p'] ++ ['😀', '\n', 'b'] ∧
      linePrefix content q = some ['%', 'p'] ∧
      slice content (fullRange content) = ['%', 'p', '😀', '\n', 'b'] := by
  intro content p q r
  have hpq : q.before p = false := by decide
  have hqr : r.before q = false := by decide
  have hline : lineAt content q.line = some ['%', 'p', '😀'] := by decide
  have hlines : (content.splitOn '\n').length < UInt32.size := by decide
  have hunits : ∀ piece ∈ content.splitOn '\n', units piece < UInt32.size := by decide
  obtain ⟨hmeet, hfront, hfull⟩ := slice_additive content
  refine ⟨hpq, hqr, hline, hlines, hunits, ?_, ?_, ?_⟩
  · rw [hmeet p q r hpq hqr]
    decide
  · rw [hfront q _ hline]
    decide
  · rw [(hfull hlines hunits).1]
    decide

end HamlServer.Text
