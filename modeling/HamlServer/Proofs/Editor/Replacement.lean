import HamlServer.Editor.Edit
import HamlServer.Proofs.Text.Slice
import Mathlib.Data.List.Basic

/-!
# Edits as the editor applies them

For the editor a line ends with a line feed, with a carriage return and a line feed, or with a
carriage return alone.  A document is cut at line feeds only, so the two count the same lines as
long as no carriage return stands alone.

* `flatMap_endedLines`: the lines with their ends make up the text.
* `length_endedLines`: a line that ends with a carriage return alone is one that the document does
  not count.
* `offset_last`, `offset_lt`: where a position in the last line and one in an earlier line lead to.
* `apply_fullRange_iff`: an edit of the full range leaves nothing of the old text exactly when no
  carriage return stands alone.
-/

namespace HamlServer

namespace Text

/-! ## Lines with their ends -/

/-- The lines of a text, each with what ends it.  Only the last line has no end. -/
def endedLines : List Char → List (List Char × List Char)
  | [] => [([], [])]
  | '\r' :: '\n' :: r => ([], ['\r', '\n']) :: endedLines r
  | '\r' :: r => ([], ['\r']) :: endedLines r
  | '\n' :: r => ([], ['\n']) :: endedLines r
  | c :: r => (endedLines r).modifyHead fun l => (c :: l.1, l.2)

/-- A line with its end. -/
def wholeLine (l : List Char × List Char) : List Char := l.1 ++ l.2

/-- Each carriage return of a text is followed by a line feed. -/
def ReturnsPaired (s : List Char) : Prop := ∀ a b, s = a ++ '\r' :: b → b.head? = some '\n'

variable {c : Char} {s : List Char}

theorem endedLines_return (h : s.head? ≠ some '\n') :
    endedLines ('\r' :: s) = ([], ['\r']) :: endedLines s := by
  cases s with
  | nil => rfl
  | cons c s =>
    rw [endedLines]
    rintro r ⟨⟩
    exact h rfl

theorem endedLines_cons (hreturn : c ≠ '\r') (hfeed : c ≠ '\n') (s : List Char) :
    endedLines (c :: s) = (endedLines s).modifyHead fun l => (c :: l.1, l.2) := by
  rw [endedLines]
  · exact fun r h => absurd h hreturn
  · exact hreturn
  · exact hfeed

/-- Induction along the lines of a text: it starts with one of the three ends of a line, or with a
character of the first line. -/
theorem endedLines_induction {P : List Char → Prop} (nil : P [])
    (returnFeed : ∀ s, P s → P ('\r' :: '\n' :: s))
    (loneReturn : ∀ s, s.head? ≠ some '\n' → P s → P ('\r' :: s))
    (feed : ∀ s, P s → P ('\n' :: s))
    (character : ∀ c s, c ≠ '\r' → c ≠ '\n' → P s → P (c :: s)) (s : List Char) : P s := by
  induction s using endedLines.induct with
  | case1 => exact nil
  | case2 s ih => exact returnFeed s ih
  | case3 s hs ih =>
    apply loneReturn s _ ih
    intro hhead
    obtain ⟨r, rfl⟩ := List.head?_eq_some_iff.1 hhead
    exact hs r rfl
  | case4 s ih => exact feed s ih
  | case5 c s _ hreturn hfeed ih => exact character c s hreturn hfeed ih

theorem endedLines_ne_nil (s : List Char) : endedLines s ≠ [] := by
  induction s using endedLines_induction with
  | nil | returnFeed | feed => exact List.cons_ne_nil _ _
  | loneReturn s hs => rw [endedLines_return hs]; exact List.cons_ne_nil _ _
  | character c s hreturn hfeed ih =>
    rw [endedLines_cons hreturn hfeed]
    exact fun h => ih (List.modifyHead_eq_nil_iff.1 h)

/-- The lines with their ends make up the text. -/
theorem flatMap_endedLines (s : List Char) : (endedLines s).flatMap wholeLine = s := by
  induction s using endedLines_induction with
  | nil => rfl
  | returnFeed s ih | feed s ih => rw [endedLines, List.flatMap_cons, ih]; rfl
  | loneReturn s hs ih => rw [endedLines_return hs, List.flatMap_cons, ih]; rfl
  | character c s hreturn hfeed ih =>
    obtain ⟨l, ls, hl⟩ := List.exists_cons_of_ne_nil (endedLines_ne_nil s)
    rw [hl] at ih
    rw [endedLines_cons hreturn hfeed, hl]
    exact congrArg (c :: ·) ih

/-- All lines but the last have an end. -/
theorem exists_endedLines_concat (s : List Char) :
    ∃ ls t, endedLines s = ls ++ [(t, [])] ∧ ∀ l ∈ ls, l.2 ≠ [] := by
  have hcons {s : List Char} (l : List Char × List Char) (hl : l.2 ≠ [])
      (ih : ∃ ls t, endedLines s = ls ++ [(t, [])] ∧ ∀ l ∈ ls, l.2 ≠ []) :
      ∃ ls t, l :: endedLines s = ls ++ [(t, [])] ∧ ∀ l ∈ ls, l.2 ≠ [] := by
    obtain ⟨ls, t, hs, hls⟩ := ih
    exact ⟨l :: ls, t, by rw [hs]; rfl, List.forall_mem_cons.2 ⟨hl, hls⟩⟩
  induction s using endedLines_induction with
  | nil => exact ⟨[], [], rfl, nofun⟩
  | returnFeed s ih | feed s ih => exact hcons _ (List.cons_ne_nil _ _) ih
  | loneReturn s hs ih =>
    rw [endedLines_return hs]
    exact hcons _ (List.cons_ne_nil _ _) ih
  | character c s hreturn hfeed ih =>
    obtain ⟨ls, t, hs, hls⟩ := ih
    rw [endedLines_cons hreturn hfeed, hs]
    cases ls with
    | nil => exact ⟨[], c :: t, rfl, nofun⟩
    | cons l ls =>
      rw [List.forall_mem_cons] at hls
      exact ⟨(c :: l.1, l.2) :: ls, t, rfl, List.forall_mem_cons.2 hls⟩

/-! ## Lines that a document does not count -/

/-- A line that ends with a carriage return alone. -/
def endsAlone (l : List Char × List Char) : Bool := l.2 == ['\r']

/-- A character in front of a text changes the first line, but not how it ends. -/
theorem countP_endedLines_cons (hreturn : c ≠ '\r') (hfeed : c ≠ '\n') (s : List Char) :
    (endedLines (c :: s)).countP endsAlone = (endedLines s).countP endsAlone := by
  obtain ⟨l, ls, hl⟩ := List.exists_cons_of_ne_nil (endedLines_ne_nil s)
  rw [endedLines_cons hreturn hfeed, hl, List.modifyHead_cons, List.countP_cons, List.countP_cons]
  rfl

/-- A line that ends with a carriage return alone is one that the document does not count. -/
theorem length_endedLines (s : List Char) :
    (endedLines s).length = (s.splitOn '\n').length + (endedLines s).countP endsAlone := by
  induction s using endedLines_induction with
  | nil => rfl
  | returnFeed s ih =>
    rw [endedLines, List.length_cons, List.countP_cons_of_neg (by decide),
      List.splitOn_cons_eq_if_modifyHead, if_neg (by decide), List.length_modifyHead,
      List.splitOn_cons_eq_if_modifyHead, if_pos (by decide), List.length_cons]
    omega
  | loneReturn s hs ih =>
    rw [endedLines_return hs, List.length_cons, List.countP_cons_of_pos (by decide),
      List.splitOn_cons_eq_if_modifyHead, if_neg (by decide), List.length_modifyHead]
    omega
  | feed s ih =>
    rw [endedLines, List.length_cons, List.countP_cons_of_neg (by decide),
      List.splitOn_cons_eq_if_modifyHead, if_pos (by decide), List.length_cons]
    omega
  | character c s hreturn hfeed ih =>
    rw [countP_endedLines_cons hreturn hfeed, endedLines_cons hreturn hfeed, List.length_modifyHead,
      List.splitOn_cons_eq_if_modifyHead, if_neg (by simpa using hfeed), List.length_modifyHead, ih]

theorem returnsPaired_cons :
    ReturnsPaired (c :: s) ↔ (c = '\r' → s.head? = some '\n') ∧ ReturnsPaired s := by
  constructor
  · intro h
    refine ⟨?_, ?_⟩
    · rintro rfl
      exact h [] s rfl
    · intro a b hs
      exact h (c :: a) b (by rw [hs]; rfl)
  · rintro ⟨hfirst, hrest⟩ a b hs
    cases a with
    | nil =>
      obtain ⟨rfl, rfl⟩ := List.cons.inj hs
      exact hfirst rfl
    | cons x a => exact hrest a b (List.cons.inj hs).2

/-- No line ends with a carriage return alone exactly when each one is followed by a line feed. -/
theorem countP_endsAlone_eq_zero_iff (s : List Char) :
    (endedLines s).countP endsAlone = 0 ↔ ReturnsPaired s := by
  induction s using endedLines_induction with
  | nil => simp [endedLines, endsAlone, ReturnsPaired]
  | returnFeed s ih =>
    rw [endedLines, List.countP_cons_of_neg (by decide), ih, returnsPaired_cons, returnsPaired_cons]
    simp
  | loneReturn s hs ih =>
    rw [endedLines_return hs, List.countP_cons_of_pos (by decide), returnsPaired_cons]
    simp [hs]
  | feed s ih =>
    rw [endedLines, List.countP_cons_of_neg (by decide), ih, returnsPaired_cons]
    simp
  | character c s hreturn hfeed ih =>
    rw [countP_endedLines_cons hreturn hfeed, ih, returnsPaired_cons]
    simp [hreturn]

/-- Where no carriage return stands alone, the last line is what follows the last line feed. -/
theorem getLast?_splitOn (hs : ReturnsPaired s) :
    (s.splitOn '\n').getLast? = (endedLines s).getLast?.map Prod.fst := by
  induction s using endedLines_induction with
  | nil => rfl
  | returnFeed s ih =>
    have hrest := (returnsPaired_cons.1 (returnsPaired_cons.1 hs).2).2
    rw [List.splitOn_cons_eq_if_modifyHead, if_neg (by decide), List.splitOn_cons_eq_if_modifyHead,
      if_pos (by decide), List.modifyHead_cons, endedLines,
      List.getLast?_cons_of_ne_nil (List.splitOn_ne_nil '\n' s),
      List.getLast?_cons_of_ne_nil (endedLines_ne_nil s), ih hrest]
  | loneReturn s hhead ih => exact absurd ((returnsPaired_cons.1 hs).1 rfl) hhead
  | feed s ih =>
    rw [List.splitOn_cons_eq_if_modifyHead, if_pos (by decide), endedLines,
      List.getLast?_cons_of_ne_nil (List.splitOn_ne_nil '\n' s),
      List.getLast?_cons_of_ne_nil (endedLines_ne_nil s), ih (returnsPaired_cons.1 hs).2]
  | character c s hreturn hfeed ih =>
    have hrest := (returnsPaired_cons.1 hs).2
    have hlast := ih hrest
    have hlength := length_endedLines s
    rw [(countP_endsAlone_eq_zero_iff s).2 hrest, Nat.add_zero] at hlength
    rw [List.splitOn_cons_eq_if_modifyHead, if_neg (by simpa using hfeed),
      endedLines_cons hreturn hfeed]
    -- there are as many pieces as lines, so the first one is the last on both sides or on none
    obtain ⟨p, ps, hp⟩ := List.exists_cons_of_ne_nil (List.splitOn_ne_nil '\n' s)
    obtain ⟨l, ls, hl⟩ := List.exists_cons_of_ne_nil (endedLines_ne_nil s)
    rw [hp, hl] at hlast hlength
    rw [hp, hl, List.modifyHead_cons, List.modifyHead_cons]
    cases ps with
    | nil =>
      obtain rfl : ls = [] := List.eq_nil_of_length_eq_zero (by simpa using hlength)
      have hpl : p = l.1 := by simpa using hlast
      rw [hpl]
      rfl
    | cons p' ps =>
      cases ls with
      | nil => simp at hlength
      | cons l' ls =>
        rw [List.getLast?_cons_cons] at hlast ⊢
        rw [List.getLast?_cons_cons] at hlast ⊢
        exact hlast

/-! ## Positions -/

/-- The number of characters in front of a position: the lines before it with their ends, and the
part of its own line before the column.  A column past the end of a line stands for that end. -/
def offset (s : List Char) (p : Position) : Nat :=
  (((endedLines s).take p.line.toNat).flatMap wholeLine).length +
    (((endedLines s)[p.line.toNat]?).elim [] fun l => takeUnits p.character.toNat l.1).length

theorem offset_start (s : List Char) : offset s ⟨0, 0⟩ = 0 := by
  obtain ⟨l, ls, hl⟩ := List.exists_cons_of_ne_nil (endedLines_ne_nil s)
  simp [offset, hl]

theorem length_takeUnits_le (n : Nat) (line : List Char) :
    (takeUnits n line).length ≤ line.length := by
  have h := congrArg List.length (takeUnits_append_dropUnits n line)
  rw [List.length_append] at h
  omega

/-- The end of the last line is the end of the text. -/
theorem offset_last {ls : List (List Char × List Char)} {t : List Char}
    (hs : endedLines s = ls ++ [(t, [])]) {p : Position} (hline : p.line.toNat = ls.length)
    (hcolumn : p.character.toNat = units t) : offset s p = s.length := by
  have hlength := congrArg List.length (flatMap_endedLines s)
  rw [hs, List.flatMap_append, List.length_append] at hlength
  have htake : (ls ++ [(t, [])]).take ls.length = ls := List.take_left
  have hget : (ls ++ [(t, ([] : List Char))])[ls.length]? = some (t, []) :=
    List.getElem?_concat_length
  rw [offset, hs, hline, htake, hget, hcolumn, Option.elim_some,
    takeUnits_of_units_le (Nat.le_refl _), ← hlength]
  simp [wholeLine]

/-- A position in front of the last line is in front of the end of its own line. -/
theorem offset_lt {p : Position} (hline : p.line.toNat + 1 < (endedLines s).length) :
    offset s p < s.length := by
  obtain ⟨ls, t, hs, hends⟩ := exists_endedLines_concat s
  have hlt : p.line.toNat < ls.length := by
    rw [hs, List.length_append, List.length_singleton] at hline
    omega
  have hget : (endedLines s)[p.line.toNat]? = some ls[p.line.toNat] := by
    rw [hs, List.getElem?_append_left hlt, List.getElem?_eq_getElem hlt]
  have hsplit := congrArg List.length (flatMap_endedLines s)
  rw [← List.take_append_drop p.line.toNat (endedLines s), List.flatMap_append,
    List.length_append, List.drop_eq_getElem?_toList_append, hget] at hsplit
  have hend : 0 < ls[p.line.toNat].2.length :=
    List.length_pos_iff.2 (hends _ (List.getElem_mem hlt))
  have hcolumn := length_takeUnits_le p.character.toNat ls[p.line.toNat].1
  rw [offset, hget, Option.elim_some]
  simp only [Option.toList_some, List.singleton_append, List.flatMap_cons, List.length_append,
    wholeLine] at hsplit
  omega

end Text

/-! ## Edits -/

/-- A text after an edit: what the range covers gives way to the new text. -/
def TextEdit.apply (e : TextEdit) (s : List Char) : List Char :=
  s.take (Text.offset s e.range.start) ++ e.newText.toList ++ s.drop (Text.offset s e.range.stop)

namespace Text

variable {content : List Char}

/-- The new text comes in front of what lies behind the range. -/
theorem apply_fullRange (content : List Char) (new : String) :
    (TextEdit.mk (fullRange content) new).apply content =
      new.toList ++ content.drop (offset content (fullRange content).stop) := by
  have hstart : (fullRange content).start = ⟨0, 0⟩ := rfl
  rw [TextEdit.apply, hstart, offset_start, List.take_zero, List.nil_append]

/-- **An edit of the whole document.**  For the editor, the range that covers a document goes up to
its end exactly when no carriage return of the document stands alone.  Then nothing of the old text
is left, and otherwise something is. -/
theorem apply_fullRange_iff (content : List Char) (new : String)
    (hlines : (endedLines content).length < UInt32.size)
    (hunits : ∀ l ∈ endedLines content, units l.1 < UInt32.size) :
    (TextEdit.mk (fullRange content) new).apply content = new.toList ↔ ReturnsPaired content := by
  have hlength := length_endedLines content
  have hpieces : 0 < (content.splitOn '\n').length :=
    List.length_pos_iff.2 (List.splitOn_ne_nil '\n' content)
  have hline : (fullRange content).stop.line.toNat = (content.splitOn '\n').length - 1 :=
    toNat_line_fullRange (by omega)
  rw [apply_fullRange, List.append_right_eq_self, List.drop_eq_nil_iff,
    ← countP_endsAlone_eq_zero_iff]
  constructor
  · intro hend
    by_contra hne
    have hlt : offset content (fullRange content).stop < content.length := by
      apply offset_lt
      omega
    omega
  · intro hzero
    obtain ⟨ls, t, hs, -⟩ := exists_endedLines_concat content
    have hlast := getLast?_splitOn ((countP_endsAlone_eq_zero_iff content).1 hzero)
    rw [hs, List.getLast?_concat, Option.map_some] at hlast
    have hcolumn := toNat_character_fullRange hlast (hunits (t, []) (by rw [hs]; simp))
    have hcount : (endedLines content).length = ls.length + 1 := by
      rw [hs, List.length_append, List.length_singleton]
    have hlast : (fullRange content).stop.line.toNat = ls.length := by omega
    exact Nat.le_of_eq (offset_last hs hlast hcolumn).symm

/-- Lines with different ends, one of them with a character of two units. -/
theorem apply_fullRange_returnFeed :
    let content := ['%', 'p', '\r', '\n', '\n', '😀', 'b']
    (endedLines content).length < UInt32.size ∧
      (∀ l ∈ endedLines content, units l.1 < UInt32.size) ∧
      (TextEdit.mk (fullRange content) "%a").apply content = ['%', 'a'] := by
  intro content
  have hlines : (endedLines content).length < UInt32.size := by decide
  have hunits : ∀ l ∈ endedLines content, units l.1 < UInt32.size := by decide
  have hpaired : ReturnsPaired content := (countP_endsAlone_eq_zero_iff content).1 (by decide)
  exact ⟨hlines, hunits, (apply_fullRange_iff content "%a" hlines hunits).2 hpaired⟩

/-- The editor sees two lines where the document has one, and the second line stays. -/
theorem apply_fullRange_loneReturn :
    let content := ['a', '\r', 'b']
    (endedLines content).length < UInt32.size ∧
      (∀ l ∈ endedLines content, units l.1 < UInt32.size) ∧
      (TextEdit.mk (fullRange content) "x").apply content = ['x', '\r', 'b'] ∧
      (TextEdit.mk (fullRange content) "x").apply content ≠ "x".toList := by
  decide

end Text

end HamlServer
