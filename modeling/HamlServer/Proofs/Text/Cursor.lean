import HamlServer.Proofs.Text.Slice
import HamlServer.Proofs.Text.Utf8
import HamlServer.Text.Cursor
import HamlServer.Text.Word

/-!
# The word under the cursor

The octets of a character are all those of a word character or none of them are.  So the search over
octets sees the runs of word characters just as a reader of the line does, and it starts and stops
between two characters.

* `isWordOctet_of_mem`: what an octet tells of its character.
* `maximalRun_iff`: the run that touches a cursor goes from it to both sides as far as it can.
* `wordSpan?_eq_some_iff`: where the search starts and stops.
* `wordAt_maximalRun`: the word at a position.
-/

namespace HamlServer.Text

variable {line front back before word after s : List Char} {b : UInt8} {c : Char} {i n : Nat}

/-! ## Columns -/

/-- A line cut at a column: what stands in front takes no more units than the column counts, and the
next character would take more.  Inside a surrogate pair the cut is in front of the pair. -/
structure CutAtColumn (line : List Char) (column : Nat) (front back : List Char) : Prop where
  append_eq : front ++ back = line
  units_le : units front ≤ column
  lt_units : ∀ c, back.head? = some c → column < units front + unitSize c

theorem cutAtColumn_units (n : Nat) (line : List Char) :
    CutAtColumn line n (takeUnits n line) (dropUnits n line) := by
  induction line generalizing n with
  | nil => exact ⟨rfl, Nat.zero_le n, fun c hc => by cases hc⟩
  | cons c r ih =>
    by_cases h : unitSize c ≤ n
    · obtain ⟨happend, hle, hlt⟩ := ih (n - unitSize c)
      rw [takeUnits, dropUnits, if_pos h, if_pos h]
      refine ⟨congrArg (c :: ·) happend, ?_, fun x hx => ?_⟩
      · rw [units]
        omega
      · have hx' := hlt x hx
        rw [units]
        omega
    · rw [takeUnits, dropUnits, if_neg h, if_neg h]
      refine ⟨rfl, Nat.zero_le n, fun x hx => ?_⟩
      obtain rfl : c = x := Option.some.inj hx
      rw [units]
      omega

/-- There is one place to cut. -/
theorem CutAtColumn.eq_units (h : CutAtColumn line n front back) :
    front = takeUnits n line ∧ back = dropUnits n line := by
  obtain ⟨rfl, hle, hlt⟩ := h
  induction front generalizing n with
  | nil =>
    cases back with
    | nil => exact ⟨rfl, rfl⟩
    | cons c r =>
      have hc : ¬ unitSize c ≤ n := by
        have hc := hlt c rfl
        rw [units] at hc
        omega
      rw [List.nil_append, takeUnits, dropUnits, if_neg hc, if_neg hc]
      exact ⟨rfl, rfl⟩
  | cons c front ih =>
    rw [units] at hle hlt
    have hc : unitSize c ≤ n := by omega
    obtain ⟨hfront, hback⟩ := @ih (n - unitSize c) (by omega) fun x hx => by
      have hx' := hlt x hx
      omega
    rw [List.cons_append, takeUnits, dropUnits, if_pos hc, if_pos hc, ← hfront, ← hback]
    exact ⟨rfl, rfl⟩

theorem octetIndex_eq (n : Nat) (line : List Char) :
    octetIndex n line = Utf8.size (takeUnits n line) := by
  induction line generalizing n with
  | nil => rfl
  | cons c r ih =>
    by_cases h : unitSize c ≤ n
    · rw [octetIndex, takeUnits, if_pos h, if_pos h, ih, Utf8.size]
    · rw [octetIndex, takeUnits, if_neg h, if_neg h, Utf8.size]

/-! ## Words -/

/-- The longest run of identifier characters at the end of a text. -/
def wordBefore (s : List Char) : List Char := (s.reverse.takeWhile isAsciiWordChar).reverse

/-- The longest run of identifier characters at the start of a text. -/
def wordAfter (s : List Char) : List Char := s.takeWhile isAsciiWordChar

theorem wordAfter_append (hword : ∀ c ∈ word, isAsciiWordChar c = true)
    (hright : ∀ c, after.head? = some c → isAsciiWordChar c = false) :
    wordAfter (word ++ after) = word := by
  rw [wordAfter, List.takeWhile_append_of_pos hword]
  cases after with
  | nil => exact List.append_nil word
  | cons c r => rw [List.takeWhile_cons_of_neg (by simp [hright c rfl]), List.append_nil]

theorem wordBefore_append (hword : ∀ c ∈ word, isAsciiWordChar c = true)
    (hleft : ∀ c, before.getLast? = some c → isAsciiWordChar c = false) :
    wordBefore (before ++ word) = word := by
  have hreverse : wordAfter (word.reverse ++ before.reverse) = word.reverse := by
    refine wordAfter_append (fun c hc => hword c (List.mem_reverse.1 hc)) fun c hc => hleft c ?_
    rwa [List.head?_reverse] at hc
  rw [wordBefore, List.reverse_append, ← wordAfter, hreverse, List.reverse_reverse]

theorem isAsciiWordChar_of_mem_wordAfter (h : c ∈ wordAfter s) : isAsciiWordChar c = true :=
  List.all_eq_true.1 List.all_takeWhile c h

theorem isAsciiWordChar_of_mem_wordBefore (h : c ∈ wordBefore s) : isAsciiWordChar c = true :=
  List.all_eq_true.1 List.all_takeWhile c (List.mem_reverse.1 h)

/-- What follows the longest run at the start begins with no identifier character. -/
theorem exists_eq_wordAfter_append (s : List Char) :
    ∃ after, s = wordAfter s ++ after ∧
      ∀ c, after.head? = some c → isAsciiWordChar c = false := by
  refine ⟨s.dropWhile isAsciiWordChar, List.takeWhile_append_dropWhile.symm, fun c hc => ?_⟩
  have hstop := List.head?_dropWhile_not isAsciiWordChar s
  rw [hc] at hstop
  simpa using hstop

/-- What stands in front of the longest run at the end does not end with an identifier character. -/
theorem exists_eq_append_wordBefore (s : List Char) :
    ∃ before, s = before ++ wordBefore s ∧
      ∀ c, before.getLast? = some c → isAsciiWordChar c = false := by
  obtain ⟨after, hs, hstop⟩ := exists_eq_wordAfter_append s.reverse
  refine ⟨after.reverse, ?_, fun c hc => hstop c ?_⟩
  · rw [wordBefore, ← wordAfter, ← List.reverse_append, ← hs, List.reverse_reverse]
  · rwa [List.getLast?_reverse] at hc

/-- A run of identifier characters of a line that nothing lengthens, and that contains a cursor or
ends at it; the cursor is given by the number of characters in front of it. -/
structure MaximalRun (line : List Char) (cursor : Nat) (before word after : List Char) : Prop where
  append_eq : before ++ word ++ after = line
  ne_nil : word ≠ []
  isWord : ∀ c ∈ word, isAsciiWordChar c = true
  left : ∀ c, before.getLast? = some c → isAsciiWordChar c = false
  right : ∀ c, after.head? = some c → isAsciiWordChar c = false
  start_le : before.length ≤ cursor
  le_stop : cursor ≤ before.length + word.length

/-- The run that touches a cursor goes to both sides as far as there are identifier characters. -/
theorem maximalRun_iff :
    MaximalRun (front ++ back) front.length before word after ↔
      front = before ++ wordBefore front ∧ back = wordAfter back ++ after ∧
        word = wordBefore front ++ wordAfter back ∧ word ≠ [] := by
  constructor
  · rintro ⟨hline, hne, hword, hleft, hright, hstart, hstop⟩
    -- the cursor cuts the run in two
    let k := front.length - before.length
    have hlength : (before ++ word.take k).length = front.length := by
      rw [List.length_append, List.length_take]
      omega
    have hcut : (before ++ word.take k) ++ (word.drop k ++ after) = front ++ back := by
      rw [← hline, List.append_assoc, List.append_assoc, ← List.append_assoc (word.take k),
        List.take_append_drop]
    obtain ⟨hfront, hback⟩ := List.append_inj hcut hlength
    have hbefore : wordBefore front = word.take k := by
      rw [← hfront]
      exact wordBefore_append (fun c hc => hword c (List.mem_of_mem_take hc)) hleft
    have hafter : wordAfter back = word.drop k := by
      rw [← hback]
      exact wordAfter_append (fun c hc => hword c (List.mem_of_mem_drop hc)) hright
    rw [hbefore, hafter, List.take_append_drop]
    exact ⟨hfront.symm, hback.symm, rfl, hne⟩
  · rintro ⟨hfront, hback, rfl, hne⟩
    obtain ⟨before', hfront', hleft⟩ := exists_eq_append_wordBefore front
    obtain ⟨after', hback', hright⟩ := exists_eq_wordAfter_append back
    obtain rfl : before = before' := List.append_cancel_right (hfront.symm.trans hfront')
    obtain rfl : after = after' := List.append_cancel_left (hback.symm.trans hback')
    have hlength := congrArg List.length hfront
    rw [List.length_append] at hlength
    refine ⟨?_, hne, fun c hc => ?_, hleft, hright, by omega, ?_⟩
    · rw [← List.append_assoc, ← hfront, List.append_assoc, ← hback]
    · rcases List.mem_append.1 hc with hc | hc
      · exact isAsciiWordChar_of_mem_wordBefore hc
      · exact isAsciiWordChar_of_mem_wordAfter hc
    · rw [List.length_append]
      omega

/-- No two runs touch the same cursor. -/
theorem MaximalRun.unique {before' word' after' : List Char}
    (h : MaximalRun line i before word after) (h' : MaximalRun line i before' word' after') :
    before = before' ∧ word = word' ∧ after = after' := by
  obtain ⟨front, back, rfl, rfl⟩ : ∃ front back, line = front ++ back ∧ i = front.length := by
    refine ⟨line.take i, line.drop i, (List.take_append_drop i line).symm, ?_⟩
    have hle := h.le_stop
    rw [List.length_take, ← h.append_eq, List.length_append, List.length_append]
    omega
  obtain ⟨hfront, hback, hword, -⟩ := maximalRun_iff.1 h
  obtain ⟨hfront', hback', hword', -⟩ := maximalRun_iff.1 h'
  exact ⟨List.append_cancel_right (hfront.symm.trans hfront'), hword.trans hword'.symm,
    List.append_cancel_left (hback.symm.trans hback')⟩

/-- A run touches a cursor exactly where an identifier character stands next to it. -/
theorem exists_maximalRun_iff :
    (∃ before word after, MaximalRun (front ++ back) front.length before word after) ↔
      ∃ c, isAsciiWordChar c = true ∧ (back.head? = some c ∨ front.getLast? = some c) := by
  obtain ⟨before, hfront, hleft⟩ := exists_eq_append_wordBefore front
  obtain ⟨after, hback, hright⟩ := exists_eq_wordAfter_append back
  constructor
  · rintro ⟨before', word, after', h⟩
    obtain ⟨-, -, rfl, hne⟩ := maximalRun_iff.1 h
    cases hafter : wordAfter back with
    | cons c r =>
      refine ⟨c, isAsciiWordChar_of_mem_wordAfter (s := back) (by simp [hafter]), Or.inl ?_⟩
      rw [hback, hafter]
      rfl
    | nil =>
      rw [hafter, List.append_nil] at hne
      obtain ⟨r, c, hbefore⟩ := (List.eq_nil_or_concat (wordBefore front)).resolve_left hne
      rw [List.concat_eq_append] at hbefore
      refine ⟨c, isAsciiWordChar_of_mem_wordBefore (s := front) (by simp [hbefore]), Or.inr ?_⟩
      rw [hfront, hbefore, ← List.append_assoc, List.getLast?_concat]
  · rintro ⟨c, hc, hbeside⟩
    refine ⟨before, wordBefore front ++ wordAfter back, after,
      maximalRun_iff.2 ⟨hfront, hback, rfl, fun hnil => ?_⟩⟩
    obtain ⟨hbefore, hafter⟩ := List.append_eq_nil_iff.1 hnil
    rcases hbeside with hhead | hlast
    · rw [hback, hafter] at hhead
      exact absurd hc (by simp [hright c hhead])
    · rw [hfront, hbefore, List.append_nil] at hlast
      exact absurd hc (by simp [hleft c hlast])

/-! ## Octets -/

theorem length_encode_ofList (s : List Char) :
    (Utf8.encode (String.ofList s)).length = Utf8.size s := by
  rw [Utf8.encode_ofList]
  induction s with
  | nil => rfl
  | cons c s ih =>
    rw [List.flatMap_cons, List.length_append, ih, String.length_utf8EncodeChar, Utf8.size]

theorem encode_ofList_append (s t : List Char) :
    Utf8.encode (String.ofList (s ++ t)) =
      Utf8.encode (String.ofList s) ++ Utf8.encode (String.ofList t) := by
  simp only [Utf8.encode_ofList, List.flatMap_append]

/-- Whether a number is the code of a letter, a decimal digit or the underscore of ASCII. -/
def isWordCode (n : Nat) : Bool :=
  (48 ≤ n && n ≤ 57) || (65 ≤ n && n ≤ 90) || (97 ≤ n && n ≤ 122) || n == 95

theorem isWordOctet_eq (b : UInt8) : isWordOctet b = isWordCode b.toNat := by
  rw [Bool.eq_iff_iff]
  simp [isWordOctet, isWordCode, UInt8.le_iff_toNat_le, ← UInt8.toNat_inj]

theorem isAsciiWordChar_eq (c : Char) : isAsciiWordChar c = isWordCode c.toNat := by
  have hchar : isAsciiWordChar c = (decide (65 ≤ c.val ∧ c.val ≤ 90) ||
      97 ≤ c.val && c.val ≤ 122 || (48 ≤ c.val && c.val ≤ 57) || c == '_') := rfl
  rw [hchar, Bool.eq_iff_iff]
  simp only [isWordCode, Bool.or_eq_true, Bool.and_eq_true, decide_eq_true_eq, beq_iff_eq,
    UInt32.le_iff_toNat_le, ← Char.toNat_inj]
  show ((65 ≤ c.toNat ∧ c.toNat ≤ 90 ∨ 97 ≤ c.toNat ∧ c.toNat ≤ 122) ∨
    48 ≤ c.toNat ∧ c.toNat ≤ 57) ∨ c.toNat = 95 ↔ _
  omega

theorem lt_of_isWordCode (h : isWordCode n = true) : n < 0x80 := by
  simp only [isWordCode, Bool.or_eq_true, Bool.and_eq_true, decide_eq_true_eq, beq_iff_eq] at h
  omega

/-- The octets of a character tell whether it is one of a word, each of them by itself. -/
theorem isWordOctet_of_mem (h : b ∈ String.utf8EncodeChar c) :
    isWordOctet b = isAsciiWordChar c := by
  rw [isWordOctet_eq, isAsciiWordChar_eq]
  by_cases hb : b.toNat < 0x80
  · rw [Utf8.toNat_of_mem_utf8EncodeChar hb h]
  · have hc : ¬ c.toNat < 0x80 := by
      intro hc
      rw [Utf8.utf8EncodeChar_of_lt hc, List.mem_singleton] at h
      rw [h, UInt8.toNat_ofNat'] at hb
      omega
    rw [Bool.eq_false_iff.2 (mt lt_of_isWordCode hb), Bool.eq_false_iff.2 (mt lt_of_isWordCode hc)]

theorem utf8Size_of_isAsciiWordChar (h : isAsciiWordChar c = true) : c.utf8Size = 1 := by
  rw [isAsciiWordChar_eq] at h
  rw [← String.length_utf8EncodeChar, Utf8.utf8EncodeChar_of_lt (lt_of_isWordCode h)]
  rfl

/-- Where all parts of each element are as the element is, so are the runs. -/
theorem takeWhile_flatMap {α β : Type} {f : α → List β} {p : α → Bool} {q : β → Bool}
    (hne : ∀ a, f a ≠ []) (h : ∀ a, ∀ b ∈ f a, q b = p a) (as : List α) :
    (as.flatMap f).takeWhile q = (as.takeWhile p).flatMap f := by
  induction as with
  | nil => rfl
  | cons a as ih =>
    rw [List.flatMap_cons]
    cases hp : p a with
    | true =>
      have hall : ∀ b ∈ f a, q b = true := fun b hb => (h a b hb).trans hp
      rw [List.takeWhile_append_of_pos hall, ih, List.takeWhile_cons_of_pos hp, List.flatMap_cons]
    | false =>
      obtain ⟨b, r, hb⟩ := List.exists_cons_of_ne_nil (hne a)
      have hfirst : q b = false := (h a b (by rw [hb]; exact List.mem_cons_self)).trans hp
      rw [hb, List.cons_append, List.takeWhile_cons_of_neg (by simp [hfirst]),
        List.takeWhile_cons_of_neg (by simp [hp]), List.flatMap_nil]

/-- The run of word octets in front of a place is that of the identifier characters. -/
theorem runStart_size (front back : List Char) :
    runStart (Utf8.encode (String.ofList (front ++ back))) (Utf8.size front) =
      Utf8.size front - Utf8.size (wordBefore front) := by
  have hrun : (Utf8.encode (String.ofList front)).reverse.takeWhile isWordOctet =
      (Utf8.encode (String.ofList (wordBefore front))).reverse := by
    rw [Utf8.encode_ofList, Utf8.encode_ofList, List.reverse_flatMap, List.reverse_flatMap,
      wordBefore, List.reverse_reverse]
    exact takeWhile_flatMap (fun c => by simp)
      (fun c b hb => isWordOctet_of_mem (List.mem_reverse.1 hb)) front.reverse
  rw [runStart, encode_ofList_append, ← length_encode_ofList front, List.take_left, hrun,
    List.length_reverse, length_encode_ofList (wordBefore front)]

/-- The run of word octets behind a place is that of the identifier characters. -/
theorem runStop_size (front back : List Char) :
    runStop (Utf8.encode (String.ofList (front ++ back))) (Utf8.size front) =
      Utf8.size front + Utf8.size (wordAfter back) := by
  have hrun : (Utf8.encode (String.ofList back)).takeWhile isWordOctet =
      Utf8.encode (String.ofList (wordAfter back)) := by
    rw [Utf8.encode_ofList, Utf8.encode_ofList]
    exact takeWhile_flatMap (fun c => String.utf8EncodeChar_ne_nil)
      (fun c b hb => isWordOctet_of_mem hb) back
  rw [runStop, encode_ofList_append, ← length_encode_ofList front, List.drop_left, hrun,
    length_encode_ofList (wordAfter back)]

/-- An octet within a character of a text tells what kind of character it is. -/
theorem isWordAt_within (front back : List Char) (h : i < c.utf8Size) :
    isWordAt (Utf8.encode (String.ofList (front ++ c :: back))) (Utf8.size front + i) =
      isAsciiWordChar c := by
  have hi : i < (String.utf8EncodeChar c).length := by rwa [String.length_utf8EncodeChar]
  have hoctet : (Utf8.encode (String.ofList (front ++ c :: back)))[Utf8.size front + i]? =
      some (String.utf8EncodeChar c)[i] := by
    rw [encode_ofList_append, ← length_encode_ofList front, List.getElem?_append_right (by omega),
      Nat.add_sub_cancel_left, Utf8.encode_ofList, List.flatMap_cons, List.getElem?_append_left hi,
      List.getElem?_eq_getElem hi]
  rw [isWordAt, hoctet, Option.any_some]
  exact isWordOctet_of_mem (List.getElem_mem hi)

theorem isWordAt_size (front back : List Char) :
    isWordAt (Utf8.encode (String.ofList (front ++ back))) (Utf8.size front) =
      back.head?.any isAsciiWordChar := by
  cases back with
  | nil =>
    rw [isWordAt, List.append_nil,
      List.getElem?_eq_none (Nat.le_of_eq (length_encode_ofList front))]
    rfl
  | cons c r => exact isWordAt_within front r c.utf8Size_pos

theorem isWordAt_size_eq_false (front : List Char)
    (hback : ∀ c, back.head? = some c → isAsciiWordChar c = false) :
    isWordAt (Utf8.encode (String.ofList (front ++ back))) (Utf8.size front) = false := by
  rw [isWordAt_size]
  cases back with
  | nil => rfl
  | cons c r => exact hback c rfl

/-! ## The search -/

/-- Right of the cursor is an identifier character: the search starts there. -/
theorem wordSpan?_of_right (h : CutAtColumn line n front (c :: after))
    (hc : isAsciiWordChar c = true) :
    wordSpan? line n = some (Utf8.size front - Utf8.size (wordBefore front),
      Utf8.size front + Utf8.size (wordAfter (c :: after))) := by
  have hright : isWordAt (Utf8.encode (String.ofList (front ++ c :: after)))
      (Utf8.size front) = true := by
    rw [isWordAt_size]
    exact hc
  have hnext : Utf8.size front + 1 = Utf8.size (front ++ [c]) := by
    rw [Utf8.size_append, Utf8.size, utf8Size_of_isAsciiWordChar hc, Utf8.size]
  have hstop : runStop (Utf8.encode (String.ofList (front ++ c :: after))) (Utf8.size front + 1) =
      Utf8.size front + Utf8.size (wordAfter (c :: after)) := by
    rw [hnext, List.append_cons, runStop_size, ← hnext, wordAfter, wordAfter,
      List.takeWhile_cons_of_pos hc, Utf8.size, utf8Size_of_isAsciiWordChar hc, Nat.add_assoc]
  rw [wordSpan?, octetIndex_eq, ← h.eq_units.1, ← h.append_eq, anchor?, if_pos hright,
    Option.map_some, runStart_size, hstop]

/-- Only left of the cursor is an identifier character: the search starts there. -/
theorem wordSpan?_of_left (h : CutAtColumn line n (before ++ [c]) back)
    (hback : ∀ c, back.head? = some c → isAsciiWordChar c = false)
    (hc : isAsciiWordChar c = true) :
    wordSpan? line n =
      some (Utf8.size (before ++ [c]) - Utf8.size (wordBefore (before ++ [c])),
        Utf8.size (before ++ [c]) + Utf8.size (wordAfter back)) := by
  have hsize : Utf8.size (before ++ [c]) = Utf8.size before + 1 := by
    rw [Utf8.size_append, Utf8.size, utf8Size_of_isAsciiWordChar hc, Utf8.size]
  have hright := Bool.eq_false_iff.1 (isWordAt_size_eq_false (before ++ [c]) hback)
  have hleft : isWordAt (Utf8.encode (String.ofList (before ++ [c] ++ back)))
      (Utf8.size before) = true := by
    rw [List.append_assoc, isWordAt_size]
    exact hc
  have hstart : runStart (Utf8.encode (String.ofList (before ++ [c] ++ back))) (Utf8.size before) =
      Utf8.size (before ++ [c]) - Utf8.size (wordBefore (before ++ [c])) := by
    have hword : wordBefore (before ++ [c]) = wordBefore before ++ [c] := by
      rw [wordBefore, List.reverse_append, List.reverse_singleton, List.singleton_append,
        List.takeWhile_cons_of_pos hc, List.reverse_cons, wordBefore]
    have hone : Utf8.size [c] = 1 := by
      rw [Utf8.size, utf8Size_of_isAsciiWordChar hc, Utf8.size]
    rw [List.append_assoc, runStart_size, hword, Utf8.size_append, Utf8.size_append, hone]
    omega
  rw [wordSpan?, octetIndex_eq, ← h.eq_units.1, ← h.append_eq, anchor?, if_neg hright, hsize,
    Nat.add_sub_cancel, if_pos ⟨Nat.succ_ne_zero _, hleft⟩, Option.map_some, ← hsize, runStop_size,
    hstart]

/-- No identifier character is next to the cursor. -/
theorem wordSpan?_of_neither (h : CutAtColumn line n front back)
    (hback : ∀ c, back.head? = some c → isAsciiWordChar c = false)
    (hfront : ∀ c, front.getLast? = some c → isAsciiWordChar c = false) :
    wordSpan? line n = none := by
  have hright := Bool.eq_false_iff.1 (isWordAt_size_eq_false front hback)
  have hleft : ¬ (Utf8.size front ≠ 0 ∧ isWordAt (Utf8.encode (String.ofList (front ++ back)))
      (Utf8.size front - 1) = true) := by
    rintro ⟨hne, hword⟩
    obtain rfl | ⟨before, c, rfl⟩ := List.eq_nil_or_concat front
    · exact hne rfl
    · rw [List.concat_eq_append] at hfront hword
      have hpos := c.utf8Size_pos
      have hlast : Utf8.size (before ++ [c]) - 1 = Utf8.size before + (c.utf8Size - 1) := by
        rw [Utf8.size_append, Utf8.size, Utf8.size]
        omega
      rw [hlast, List.append_assoc, List.singleton_append,
        isWordAt_within before back (by omega), hfront c List.getLast?_concat] at hword
      cases hword
  rw [wordSpan?, octetIndex_eq, ← h.eq_units.1, ← h.append_eq, anchor?, if_neg hright,
    if_neg hleft, Option.map_none]

/-- The search finds the run that touches the cursor, and stops between characters. -/
theorem wordSpan?_eq_some_iff (h : CutAtColumn line n front back) {start stop : Nat} :
    wordSpan? line n = some (start, stop) ↔
      ∃ before word after, MaximalRun line front.length before word after ∧
        start = Utf8.size before ∧ stop = Utf8.size (before ++ word) := by
  by_cases hbeside : ∃ c, isAsciiWordChar c = true ∧ (back.head? = some c ∨ front.getLast? = some c)
  · have hspan : wordSpan? line n = some (Utf8.size front - Utf8.size (wordBefore front),
        Utf8.size front + Utf8.size (wordAfter back)) := by
      by_cases hright : ∃ c, back.head? = some c ∧ isAsciiWordChar c = true
      · obtain ⟨c, hhead, hc⟩ := hright
        obtain ⟨after, rfl⟩ := List.head?_eq_some_iff.1 hhead
        exact wordSpan?_of_right h hc
      · have hback : ∀ c, back.head? = some c → isAsciiWordChar c = false := fun c hhead =>
          Bool.eq_false_iff.2 fun hc => hright ⟨c, hhead, hc⟩
        obtain ⟨c, hc, hhead | hlast⟩ := hbeside
        · exact absurd ⟨c, hhead, hc⟩ hright
        · obtain ⟨before, rfl⟩ := List.getLast?_eq_some_iff.1 hlast
          exact wordSpan?_of_left h hback hc
    obtain ⟨before, word, after, hrun⟩ := exists_maximalRun_iff.2 hbeside
    obtain ⟨hfront, -, hword, -⟩ := maximalRun_iff.1 hrun
    have hsize : Utf8.size front = Utf8.size before + Utf8.size (wordBefore front) := by
      rw [← Utf8.size_append, ← hfront]
    have hspan' : wordSpan? line n = some (Utf8.size before, Utf8.size (before ++ word)) := by
      rw [hspan, hword, Utf8.size_append, Utf8.size_append, hsize, Nat.add_sub_cancel,
        Nat.add_assoc]
    rw [h.append_eq] at hrun
    rw [hspan', Option.some.injEq, Prod.mk.injEq]
    constructor
    · rintro ⟨rfl, rfl⟩
      exact ⟨before, word, after, hrun, rfl, rfl⟩
    · rintro ⟨before', word', after', hrun', rfl, rfl⟩
      obtain ⟨rfl, rfl, -⟩ := hrun.unique hrun'
      exact ⟨rfl, rfl⟩
  · have hnone : wordSpan? line n = none := by
      refine wordSpan?_of_neither h (fun c hc => ?_) fun c hc => ?_
      · exact Bool.eq_false_iff.2 fun hword => hbeside ⟨c, hword, Or.inl hc⟩
      · exact Bool.eq_false_iff.2 fun hword => hbeside ⟨c, hword, Or.inr hc⟩
    rw [hnone]
    refine iff_of_false (by simp) ?_
    rintro ⟨before, word, after, hrun, -⟩
    rw [← h.append_eq] at hrun
    exact hbeside (exists_maximalRun_iff.1 ⟨before, word, after, hrun⟩)

/-! ## The slice -/

theorem cutOctets?_size (front back : List Char) :
    cutOctets? (Utf8.size front) (front ++ back) = some (front, back) := by
  induction front with
  | nil => cases back with
    | nil => rfl
    | cons c r => rfl
  | cons c front ih =>
    obtain ⟨k, hk⟩ : ∃ k, c.utf8Size + Utf8.size front = k + 1 :=
      Nat.exists_eq_add_one.2 (Nat.add_pos_left c.utf8Size_pos _)
    have hle : c.utf8Size ≤ k + 1 := by omega
    have hrest : k + 1 - c.utf8Size = Utf8.size front := by omega
    rw [Utf8.size, hk, List.cons_append, cutOctets?, if_pos hle, hrest, ih, Option.map_some]

/-- Between two characters the slice is what stands there. -/
theorem sliceOctets?_size (before word after : List Char) :
    sliceOctets? (Utf8.size before) (Utf8.size (before ++ word)) (before ++ word ++ after) =
      some word := by
  have hle : ¬ Utf8.size (before ++ word) < Utf8.size before := by
    rw [Utf8.size_append]
    omega
  have hlength : Utf8.size (before ++ word) - Utf8.size before = Utf8.size word := by
    rw [Utf8.size_append, Nat.add_sub_cancel_left]
  simp only [sliceOctets?, List.append_assoc, cutOctets?_size, if_neg hle, hlength, bind,
    Option.bind, pure]

/-! ## The word at a position -/

theorem wordAt_eq_some_iff {content : List Char} {p : Position} :
    wordAt content p = some word ↔ ∃ line start stop, lineAt content p.line = some line ∧
      p.character.toNat ≤ units line ∧ wordSpan? line p.character.toNat = some (start, stop) ∧
      sliceOctets? start stop line = some word := by
  unfold wordAt
  cases lineAt content p.line with
  | none => simp
  | some line =>
    by_cases h : units line < p.character.toNat
    · have hcolumn : ¬ p.character.toNat ≤ units line := Nat.not_le.2 h
      simp [h, hcolumn]
    · have hcolumn : p.character.toNat ≤ units line := Nat.not_lt.1 h
      simp [h, hcolumn, Option.bind_eq_some_iff]

/-- An octet index of a text that lies between two of its characters, or at an end. -/
def IsBoundary (s : List Char) (i : Nat) : Prop :=
  ∃ front back, front ++ back = s ∧ i = Utf8.size front

/-- **The word at a position.**  It is the maximal run of identifier characters that contains the
cursor or ends at it, of which there is no other; there is one exactly where the line exists, the
column does not lie behind its end, and an identifier character stands right or left of the cursor.
Both octet indices by which it is cut out of the line lie between characters. -/
theorem wordAt_maximalRun (content : List Char) (p : Position) :
    (∀ word, wordAt content p = some word ↔ ∃ line front back before after,
      lineAt content p.line = some line ∧ p.character.toNat ≤ units line ∧
        CutAtColumn line p.character.toNat front back ∧
        MaximalRun line front.length before word after) ∧
    ((wordAt content p).isSome = true ↔ ∃ line front back,
      lineAt content p.line = some line ∧ p.character.toNat ≤ units line ∧
        CutAtColumn line p.character.toNat front back ∧
        ∃ c, isAsciiWordChar c = true ∧ (back.head? = some c ∨ front.getLast? = some c)) ∧
    (∀ line cursor before word after before' word' after',
      MaximalRun line cursor before word after → MaximalRun line cursor before' word' after' →
        before = before' ∧ word = word' ∧ after = after') ∧
    ∀ line start stop, lineAt content p.line = some line →
      wordSpan? line p.character.toNat = some (start, stop) →
        IsBoundary line start ∧ IsBoundary line stop ∧
          ∃ word, sliceOctets? start stop line = some word := by
  have hword (word : List Char) : wordAt content p = some word ↔
      ∃ line front back before after, lineAt content p.line = some line ∧
        p.character.toNat ≤ units line ∧ CutAtColumn line p.character.toNat front back ∧
        MaximalRun line front.length before word after := by
    rw [wordAt_eq_some_iff]
    constructor
    · rintro ⟨line, start, stop, hline, hcolumn, hspan, hslice⟩
      have hcut := cutAtColumn_units p.character.toNat line
      obtain ⟨before, word', after, hrun, rfl, rfl⟩ := (wordSpan?_eq_some_iff hcut).1 hspan
      obtain rfl : word' = word := by
        rw [← hrun.append_eq, sliceOctets?_size] at hslice
        exact Option.some.inj hslice
      exact ⟨line, _, _, before, after, hline, hcolumn, hcut, hrun⟩
    · rintro ⟨line, front, back, before, after, hline, hcolumn, hcut, hrun⟩
      refine ⟨line, _, _, hline, hcolumn, (wordSpan?_eq_some_iff hcut).2
        ⟨before, word, after, hrun, rfl, rfl⟩, ?_⟩
      rw [← hrun.append_eq, sliceOctets?_size]
  refine ⟨hword, ?_, fun line cursor before word after before' word' after' => MaximalRun.unique,
    fun line start stop hline hspan => ?_⟩
  · rw [Option.isSome_iff_exists]
    simp only [hword]
    constructor
    · rintro ⟨word, line, front, back, before, after, hline, hcolumn, hcut, hrun⟩
      rw [← hcut.append_eq] at hrun
      exact ⟨line, front, back, hline, hcolumn, hcut,
        exists_maximalRun_iff.1 ⟨before, word, after, hrun⟩⟩
    · rintro ⟨line, front, back, hline, hcolumn, hcut, hbeside⟩
      obtain ⟨before, word, after, hrun⟩ := exists_maximalRun_iff.2 hbeside
      rw [hcut.append_eq] at hrun
      exact ⟨word, line, front, back, before, after, hline, hcolumn, hcut, hrun⟩
  · obtain ⟨before, word, after, hrun, rfl, rfl⟩ :=
      (wordSpan?_eq_some_iff (cutAtColumn_units p.character.toNat line)).1 hspan
    rw [← hrun.append_eq]
    exact ⟨⟨before, word ++ after, (List.append_assoc ..).symm, rfl⟩,
      ⟨before ++ word, after, rfl, rfl⟩, word, sliceOctets?_size before word after⟩

/-- Behind a character of two units, with one of two octets inside the line: the word ends at the
cursor. -/
theorem wordAt_maximalRun_astral :
    let content := ['%', 'p', '\n', '😀', 'c', 'a', 'f', 'é', '_', '1', '\r', '\n']
    wordAt content ⟨1, 8⟩ = some ['_', '1'] ∧ IsBoundary ['😀', 'c', 'a', 'f', 'é', '_', '1'] 9 := by
  intro content
  let line := ['😀', 'c', 'a', 'f', 'é', '_', '1']
  obtain ⟨hword, -, -, hspan⟩ := wordAt_maximalRun content ⟨1, 8⟩
  have hline : lineAt content 1 = some line := by decide
  have hcut : CutAtColumn line 8 line [] := ⟨rfl, by decide, fun c hc => by cases hc⟩
  have hrun : MaximalRun line line.length ['😀', 'c', 'a', 'f', 'é'] ['_', '1'] [] := by
    refine ⟨rfl, by decide, List.all_eq_true.1 (by decide), fun c hc => ?_,
      fun c hc => (by cases hc), by decide, by decide⟩
    obtain rfl : 'é' = c := Option.some.inj hc
    decide
  refine ⟨(hword _).2 ⟨line, line, [], _, _, hline, by decide, hcut, hrun⟩, ?_⟩
  exact (hspan line 9 11 hline (by decide)).1

end HamlServer.Text
