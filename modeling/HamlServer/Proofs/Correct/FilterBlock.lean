import HamlServer.Proofs.Correct.Content
import Mathlib.Data.List.Induction

/-!
# Where filter blocks lie

The pass over the lines of a document carries the filter block that is open.  `InFilterBlock` says
without that pass which lines lie in one: those with a filter line above them, such that the line
and all lines in between are blank or indented deeper than it.

* `isSome_stillOpen_iff`: a block is open at exactly the lines that lie in one.
* `fixLines_append`, `fixLines_split`: correcting lines that are cut into parts.
* `fixLines_goesOn`: the lines of a block lose the white space at their end, and nothing else.
* `correctString_filterBlock`: so do they when the document is corrected.
-/

namespace HamlServer.Correct

open Text

variable {c : LintConfig} {ls ms above front between block : List (List Char)}
  {line opening : List Char} {open? : Option Nat} {d : Nat}

/-! ## Lines that lie in a block -/

/-- A line that does not end the block of a filter line above it: it is blank, or indented
deeper. -/
def GoesOn (opening line : List Char) : Prop := isBlankText line = true ∨ depth opening < depth line

instance : Decidable (GoesOn opening line) := inferInstanceAs (Decidable (_ ∨ _))

/-- Whether a line lies in a filter block, by the lines above it: one of them is a filter line, and
neither the line nor one in between ends its block. -/
def InFilterBlock (above : List (List Char)) (line : List Char) : Prop :=
  ∃ front opening between, above = front ++ opening :: between ∧ isFilterLine opening = true ∧
    ∀ l ∈ between ++ [line], GoesOn opening l

/-! ## Lines in parts -/

/-- The filter block that is open behind some lines, given the one in front of them. -/
def blockBehind (block : Option Nat) (ls : List (List Char)) : Option Nat :=
  ls.foldl (fun block line => openedBy (stillOpen block line) line) block

theorem blockBehind_concat (block : Option Nat) (ls : List (List Char)) (line : List Char) :
    blockBehind block (ls ++ [line]) = openedBy (stillOpen (blockBehind block ls) line) line := by
  unfold blockBehind
  rw [List.foldl_append]
  rfl

/-- The second part of some lines is corrected with the block that is open behind the first. -/
theorem fixLines_append (c : LintConfig) (block : Option Nat) (ls ms : List (List Char)) :
    fixLines c block (ls ++ ms) = fixLines c block ls ++ fixLines c (blockBehind block ls) ms := by
  induction ls generalizing block with
  | nil => rfl
  | cons line ls ih =>
    rw [List.cons_append, fixLines, fixLines, ih]
    rfl

theorem length_fixLines (c : LintConfig) (block : Option Nat) (ls : List (List Char)) :
    (fixLines c block ls).length = ls.length :=
  (forall₂_fixLines c block ls).length_eq

/-! ## The block of the pass -/

/-- An open block was opened by a filter line of its depth, and no line since then has ended it. -/
theorem exists_of_mem_blockBehind (h : d ∈ blockBehind none above) :
    ∃ front opening between, above = front ++ opening :: between ∧ isFilterLine opening = true ∧
      depth opening = d ∧ ∀ l ∈ between, GoesOn opening l := by
  induction above using List.reverseRecOn with
  | nil => cases h
  | append_singleton above line ih =>
    rw [blockBehind_concat] at h
    cases hstill : stillOpen (blockBehind none above) line with
    | some d' =>
      -- the line lies in a block, which stays open behind it
      rw [hstill] at h
      obtain rfl : d' = d := Option.some.inj h
      obtain ⟨hd, hline⟩ := mem_stillOpen.1 hstill
      obtain ⟨front, opening, between, rfl, hfilter, rfl, hbetween⟩ := ih hd
      refine ⟨front, opening, between ++ [line], by simp, hfilter, rfl, ?_⟩
      intro l hl
      rcases List.mem_append.1 hl with hl | hl
      · exact hbetween l hl
      · rw [List.mem_singleton.1 hl]
        exact hline
    | none =>
      rw [hstill, openedBy] at h
      split at h
      · next hfilter =>
        obtain rfl := Option.some.inj h
        exact ⟨above, line, [], rfl, hfilter, rfl, fun _ hl => absurd hl List.not_mem_nil⟩
      · cases h

/-- Behind a filter line a block is open as long as no line ends it; where the filter line lies in a
block itself, that is the outer one. -/
theorem exists_mem_blockBehind (open? : Option Nat) (front : List (List Char))
    (hfilter : isFilterLine opening = true) (hbetween : ∀ l ∈ between, GoesOn opening l) :
    ∃ d ∈ blockBehind open? (front ++ opening :: between), d ≤ depth opening := by
  induction between using List.reverseRecOn with
  | nil =>
    rw [blockBehind_concat]
    cases hstill : stillOpen (blockBehind open? front) opening with
    | none =>
      rw [openedBy, if_pos hfilter]
      exact ⟨_, rfl, Nat.le_refl _⟩
    | some d =>
      have hlt : d < depth opening := (mem_stillOpen.1 hstill).2.resolve_left
        (by simp [not_isBlankText_of_isFilterLine hfilter])
      exact ⟨d, rfl, by omega⟩
  | append_singleton between line ih =>
    obtain ⟨d, hd, hle⟩ := ih fun l hl => hbetween l (List.mem_append_left _ hl)
    have hline : GoesOn opening line := hbetween line (by simp)
    have hstill : d ∈ stillOpen (blockBehind open? (front ++ opening :: between)) line :=
      mem_stillOpen.2 ⟨hd, hline.imp_right (Nat.lt_of_le_of_lt hle)⟩
    refine ⟨d, ?_, hle⟩
    rw [← List.cons_append, ← List.append_assoc, blockBehind_concat, Option.mem_def.1 hstill]
    rfl

/-- A block is open at exactly the lines that lie in one. -/
theorem isSome_stillOpen_iff :
    (stillOpen (blockBehind none above) line).isSome = true ↔ InFilterBlock above line := by
  constructor
  · intro h
    obtain ⟨d, hd⟩ := Option.isSome_iff_exists.1 h
    obtain ⟨hd, hline⟩ := mem_stillOpen.1 hd
    obtain ⟨front, opening, between, rfl, hfilter, rfl, hbetween⟩ := exists_of_mem_blockBehind hd
    refine ⟨front, opening, between, rfl, hfilter, ?_⟩
    intro l hl
    rcases List.mem_append.1 hl with hl | hl
    · exact hbetween l hl
    · rw [List.mem_singleton.1 hl]
      exact hline
  · rintro ⟨front, opening, between, rfl, hfilter, hgoes⟩
    obtain ⟨d, hd, hle⟩ := exists_mem_blockBehind none front hfilter
      fun l hl => hgoes l (List.mem_append_left _ hl)
    have hline : GoesOn opening line := hgoes line (by simp)
    exact Option.isSome_of_mem
      (mem_stillOpen.2 ⟨hd, hline.imp_right (Nat.lt_of_le_of_lt hle)⟩)

instance : Decidable (InFilterBlock above line) := decidable_of_iff _ isSome_stillOpen_iff

/-- A line outside of filter blocks gets all corrections, with those above and below it corrected
on their own. -/
theorem fixLines_split (h : ¬ InFilterBlock above line) (c : LintConfig) (ms : List (List Char)) :
    fixLines c none (above ++ line :: ms) = fixLines c none above ++
      fixLine c false line :: fixLines c (blockBehind none (above ++ [line])) ms := by
  have hnone : (stillOpen (blockBehind none above) line).isSome = false := by
    rw [Bool.eq_false_iff]
    exact mt isSome_stillOpen_iff.1 h
  rw [fixLines_append, fixLines, hnone, blockBehind_concat]

/-! ## The lines of a block -/

theorem fixLine_true (htrim : c.isEnabled "TrailingWhitespace" = true) (line : List Char) :
    fixLine c true line = trimEnd line := by
  rcases fixLine_true_cases c line with h | h
  · have hsame := trimLine_fixLine htrim true line
    rw [h] at hsame ⊢
    exact hsame.symm
  · exact h

/-- The lines of an open block lose the white space at their end, and the block stays open. -/
theorem fixLines_goesOn (htrim : c.isEnabled "TrailingWhitespace" = true)
    (hd : d ≤ depth opening) (hblock : ∀ l ∈ block, GoesOn opening l) (ms : List (List Char)) :
    fixLines c (some d) (block ++ ms) = block.map trimEnd ++ fixLines c (some d) ms := by
  induction block with
  | nil => rfl
  | cons line block ih =>
    rw [List.forall_mem_cons] at hblock
    have hstill : stillOpen (some d) line = some d :=
      mem_stillOpen.2 ⟨rfl, hblock.1.imp_right (Nat.lt_of_le_of_lt hd)⟩
    rw [List.cons_append, fixLines, hstill, Option.isSome_some, fixLine_true htrim, openedBy,
      ih hblock.2, List.map_cons, List.cons_append]

theorem fixLines_filterBlock (htrim : c.isEnabled "TrailingWhitespace" = true)
    (hfilter : isFilterLine opening = true) (hblock : ∀ l ∈ block, GoesOn opening l)
    (open? : Option Nat) (front ms : List (List Char)) :
    ∃ d, fixLines c open? (front ++ opening :: (block ++ ms)) =
      fixLines c open? (front ++ [opening]) ++ (block.map trimEnd ++ fixLines c (some d) ms) := by
  obtain ⟨d, hd, hle⟩ := exists_mem_blockBehind open? front hfilter
    fun l hl => absurd hl List.not_mem_nil
  refine ⟨d, ?_⟩
  rw [List.append_cons, fixLines_append, Option.mem_def.1 hd, fixLines_goesOn htrim hle hblock]

/-- Lines without white space at their end are the lines of the document. -/
theorem docLines_correctString (htrim : c.isEnabled "TrailingWhitespace" = true) (s : String) :
    docLines (withoutFinalNewline (correctString c s).toList) =
      fixLines c none (docLines (sanitize s.toList)) := by
  rw [correctString, String.toList_ofList, docLines_withoutFinalNewline_correct,
    ← docLines_correctLines, docLines_correctLines_of_trim htrim]

/-- The lines below a filter line come out of the corrections of a document with nothing but the
white space at their end removed, up to the first line that is neither blank nor indented deeper
than the filter line. -/
theorem correctString_filterBlock (htrim : c.isEnabled "TrailingWhitespace" = true) {s : String}
    {front block below : List (List Char)} {opening : List Char}
    (hlines : docLines (sanitize s.toList) = front ++ opening :: (block ++ below))
    (hfilter : isFilterLine opening = true) (hblock : ∀ l ∈ block, GoesOn opening l) :
    ∃ front' below', docLines (withoutFinalNewline (correctString c s).toList) =
        front' ++ (block.map trimEnd ++ below') ∧
      front'.length = front.length + 1 ∧ below'.length = below.length := by
  obtain ⟨d, hd⟩ := fixLines_filterBlock htrim hfilter hblock none front below
  refine ⟨fixLines c none (front ++ [opening]), fixLines c (some d) below, ?_, ?_, ?_⟩
  · rw [docLines_correctString htrim, hlines, hd]
  · rw [length_fixLines, List.length_append, List.length_singleton]
  · rw [length_fixLines]

/-- A script with a blank line and one that looks like a tag, in a document with tabs. -/
theorem correctString_filterBlock_script :
    let s := "%div\n\t:javascript\r\n     #x.y = 1;  \n\n     :foo\n  %p=foo"
    let block := ["     #x.y = 1;  ", "", "     :foo"].map String.toList
    LintConfig.default.isEnabled "TrailingWhitespace" = true ∧
      docLines (sanitize s.toList) =
        ["%div".toList] ++ "  :javascript".toList :: (block ++ ["  %p=foo".toList]) ∧
      isFilterLine "  :javascript".toList = true ∧
      (∀ l ∈ block, GoesOn "  :javascript".toList l) ∧
      ∃ front' below', docLines (withoutFinalNewline (correctString .default s).toList) =
          front' ++ (["     #x.y = 1;".toList, [], "     :foo".toList] ++ below') ∧
        front'.length = 2 ∧ below'.length = 1 := by
  intro s block
  have htrim : LintConfig.default.isEnabled "TrailingWhitespace" = true := by decide
  have hlines : docLines (sanitize s.toList) =
      ["%div".toList] ++ "  :javascript".toList :: (block ++ ["  %p=foo".toList]) := by decide
  have hfilter : isFilterLine "  :javascript".toList = true := by decide
  have hblock : ∀ l ∈ block, GoesOn "  :javascript".toList l := by decide
  exact ⟨htrim, hlines, hfilter, hblock,
    correctString_filterBlock htrim hlines hfilter hblock⟩

/-- White space behind the name of a filter hides the filter: the block below is corrected like any
other lines, although the filter line loses that white space. -/
theorem not_correctString_filterBlock_of_trim :
    ¬ ∀ (c : LintConfig) (s : String) (front block below : List (List Char)) (opening : List Char),
      c.isEnabled "TrailingWhitespace" = true →
      docLines (sanitize s.toList) = front ++ opening :: (block ++ below) →
      isFilterLine (trim opening) = true → ¬ InFilterBlock front opening →
      (∀ l ∈ block, GoesOn opening l) →
      ∃ front' below', docLines (withoutFinalNewline (correctString c s).toList) =
          front' ++ (block.map trimEnd ++ below') ∧
        front'.length = front.length + 1 ∧ below'.length = below.length := by
  intro h
  obtain ⟨front', below', hout, hfront, -⟩ := h .default ":javascript  \n  #x.y" []
    ["  #x.y".toList] [] ":javascript  ".toList (by decide) (by decide) (by decide) (by decide)
    (by decide)
  have hlines : docLines (withoutFinalNewline
      (correctString .default ":javascript  \n  #x.y").toList) =
      [":javascript".toList, "  .y#x".toList] := by decide
  obtain ⟨first, rfl⟩ := List.length_eq_one_iff.1 hfront
  rw [hlines] at hout
  have htrimmed : "  .y#x".toList = trimEnd "  #x.y".toList :=
    (List.cons_eq_cons.1 (List.cons_eq_cons.1 hout).2).1
  exact absurd htrimmed (by decide)

end HamlServer.Correct
