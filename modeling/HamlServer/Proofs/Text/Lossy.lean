import HamlServer.Proofs.Text.Utf8
import Mathlib.Tactic.SplitIfs

/-!
# Reading any octets as text

Octets that spell no text are read with replacements.  What is well-formed is read as it is, and an
octet of ASCII is always read as its character, whatever stands around it: it neither continues a
character nor is it a part of one that is replaced.  So an ending in ASCII can be told from the
octets as well as from the text.

* `toList_decodeLossy`: any octets are read character by character.
* `decodeChars_append_cons`: octets of ASCII cut a text into parts that are read on their own.
* `decodeChars_eq_append_cons_iff`: every character of ASCII comes from such an octet.
* `decodeChars_eq_append_iff`: endings in ASCII.
-/

namespace HamlServer.Utf8

variable {b x low high : UInt8} {n : Nat} {a r rest : Bytes} {c : Char} {u v w : List Char}

/-! ## First octets -/

/-- The ranges of the first octets of long characters, and those of the octets behind them. -/
theorem continuation_cases (h : continuation b = some (n, low, high)) :
    (n = 1 ∧ 0xC2 ≤ b.toNat ∧ b.toNat ≤ 0xDF ∧ low.toNat = 0x80 ∧ high.toNat = 0xBF) ∨
    (n = 2 ∧ 0xE0 ≤ b.toNat ∧ b.toNat ≤ 0xEF ∧
      low.toNat = (if b.toNat = 0xE0 then 0xA0 else 0x80) ∧
      high.toNat = (if b.toNat = 0xED then 0x9F else 0xBF)) ∨
    (n = 3 ∧ 0xF0 ≤ b.toNat ∧ b.toNat ≤ 0xF4 ∧
      low.toNat = (if b.toNat = 0xF0 then 0x90 else 0x80) ∧
      high.toNat = (if b.toNat = 0xF4 then 0x8F else 0xBF)) := by
  unfold continuation at h
  simp only [Bool.and_eq_true, decide_eq_true_eq, UInt8.le_iff_toNat_le, ← UInt8.toNat_inj,
    UInt8.reduceToNat] at h
  split_ifs at h with h1 h2 h3 h4 h5 h6 h7
  all_goals
    simp only [Option.some.injEq, Prod.mk.injEq] at h
    obtain ⟨rfl, rfl, rfl⟩ := h
  · exact Or.inl ⟨rfl, h1.1, h1.2, rfl, rfl⟩
  · exact Or.inr (Or.inl (by simp [h2]))
  · exact Or.inr (Or.inl (by simp [h3]))
  · refine Or.inr (Or.inl ⟨rfl, Nat.le_of_succ_le h4.1, h4.2, ?_, ?_⟩)
    · rw [if_neg h2]; rfl
    · rw [if_neg h3]; rfl
  · exact Or.inr (Or.inr (by simp [h5]))
  · have hlt : b.toNat < 0xF4 := Nat.lt_succ_of_le h6.2
    refine Or.inr (Or.inr ⟨rfl, Nat.le_of_succ_le h6.1, Nat.le_of_lt hlt, ?_, ?_⟩)
    · rw [if_neg h5]; rfl
    · rw [if_neg (Nat.ne_of_lt hlt)]; rfl
  · exact Or.inr (Or.inr (by simp [h7]))

theorem exists_continuation (hlow : 0xC2 ≤ b.toNat) (hhigh : b.toNat ≤ 0xF4) :
    ∃ n low high, continuation b = some (n, low, high) := by
  have hnone : continuation b ≠ none := by
    unfold continuation
    simp only [Bool.and_eq_true, decide_eq_true_eq, UInt8.le_iff_toNat_le, ← UInt8.toNat_inj]
    split_ifs
    all_goals simp_all <;> omega
  obtain ⟨⟨n, low, high⟩, h⟩ := Option.ne_none_iff_exists'.1 hnone
  exact ⟨n, low, high, h⟩

theorem le_low_of_continuation (h : continuation b = some (n, low, high)) : 0x80 ≤ low.toNat := by
  rcases continuation_cases h with ⟨-, -, -, hlow, -⟩ | ⟨-, -, -, hlow, -⟩ | ⟨-, -, -, hlow, -⟩
  · omega
  · split at hlow <;> omega
  · split at hlow <;> omega

/-! ## Octets behind -/

theorem takeTail_cons (n : Nat) (low high b : UInt8) (r : Bytes) :
    takeTail (n + 1) low high (b :: r) =
      if low.toNat ≤ b.toNat ∧ b.toNat ≤ high.toNat then b :: takeTail n 0x80 0xBF r else [] := by
  simp only [takeTail, Bool.and_eq_true, decide_eq_true_eq, UInt8.le_iff_toNat_le]

theorem takeTail_isPrefix (n : Nat) (low high : UInt8) (r : Bytes) :
    takeTail n low high r <+: r := by
  induction n generalizing low high r with
  | zero => exact List.nil_prefix
  | succ n ih =>
    cases r with
    | nil => exact List.nil_prefix
    | cons b r =>
      rw [takeTail_cons]
      split
      · exact List.cons_prefix_cons.2 ⟨rfl, ih _ _ r⟩
      · exact List.nil_prefix

/-- An octet of ASCII continues nothing. -/
theorem takeTail_append_cons (hx : x.toNat < 0x80) (hlow : 0x80 ≤ low.toNat) (a r : Bytes) :
    takeTail n low high (a ++ x :: r) = takeTail n low high a := by
  induction a generalizing n low high with
  | nil =>
    cases n with
    | zero => rfl
    | succ n => rw [List.nil_append, takeTail_cons, if_neg (by omega)]; rfl
  | cons b a ih =>
    cases n with
    | zero => rfl
    | succ n => rw [List.cons_append, takeTail_cons, takeTail_cons, ih (by decide)]

theorem first_append_cons (hx : x.toNat < 0x80) (b : UInt8) (a r : Bytes) :
    first b (a ++ x :: r) = first b a := by
  unfold first
  split
  · rfl
  · cases h : continuation b with
    | none => rfl
    | some found =>
      obtain ⟨n, low, high⟩ := found
      simp only [takeTail_append_cons hx (le_low_of_continuation h)]

theorem first_snd_le (b : UInt8) (rest : Bytes) : (first b rest).2 ≤ rest.length := by
  unfold first
  split
  · exact Nat.zero_le _
  · split
    · exact Nat.zero_le _
    · exact (takeTail_isPrefix _ _ _ rest).length_le

/-! ## Characters of ASCII -/

theorem decodeChars_cons (b : UInt8) (rest : Bytes) :
    decodeChars (b :: rest) = (first b rest).1 :: decodeChars (rest.drop (first b rest).2) := by
  rw [decodeChars]

theorem first_of_lt (hx : x.toNat < 0x80) (rest : Bytes) :
    first x rest = (Char.ofNat x.toNat, 0) :=
  if_pos (UInt8.lt_iff_toNat_lt.2 hx)

/-- Octets of ASCII cut a text into parts that are read on their own. -/
theorem decodeChars_append_cons (hx : x.toNat < 0x80) (a r : Bytes) :
    decodeChars (a ++ x :: r) = decodeChars a ++ Char.ofNat x.toNat :: decodeChars r := by
  induction hn : a.length using Nat.strongRecOn generalizing a with
  | ind n ih =>
    cases a with
    | nil =>
      rw [List.nil_append, decodeChars_cons, first_of_lt hx, List.drop_zero]
      rw [decodeChars, List.nil_append]
    | cons b a =>
      have hlt : (a.drop (first b a).2).length < n := by
        rw [List.length_drop, ← hn, List.length_cons]
        omega
      rw [List.cons_append, decodeChars_cons, decodeChars_cons, first_append_cons hx,
        List.drop_append_of_le_length (first_snd_le b a), ih _ hlt _ rfl, List.cons_append]

/-- The octets behind, where there are as many as there have to be. -/
theorem exists_takeTail_eq (h : (takeTail (n + 1) low high rest).length = n + 1) :
    ∃ b r, low.toNat ≤ b.toNat ∧ b.toNat ≤ high.toNat ∧
      takeTail (n + 1) low high rest = b :: takeTail n 0x80 0xBF r ∧
      (takeTail n 0x80 0xBF r).length = n := by
  cases rest with
  | nil => cases h
  | cons b r =>
    rw [takeTail_cons] at h ⊢
    split at h
    · next hb => exact ⟨b, r, hb.1, hb.2, if_pos hb, Nat.succ.inj h⟩
    · cases h

/-- No more octets are used than ASCII needs only for ASCII. -/
theorem le_codePoint (h : continuation b = some (n, low, high))
    (hlength : (takeTail n low high rest).length = n) :
    0x80 ≤ codePoint b (takeTail n low high rest) := by
  rcases continuation_cases h with ⟨rfl, hb, hb', -, -⟩ | ⟨rfl, hb, hb', hlow, hhigh⟩ |
    ⟨rfl, hb, hb', hlow, hhigh⟩
  · obtain ⟨b₁, r, -, -, htail, -⟩ := exists_takeTail_eq hlength
    rw [htail]
    simp only [codePoint, takeTail, List.length_cons, List.length_nil, List.foldl_cons,
      List.foldl_nil]
    omega
  · obtain ⟨b₁, r, hb₁, hb₁', htail, hlength₁⟩ := exists_takeTail_eq hlength
    obtain ⟨b₂, r₂, -, -, htail₁, -⟩ := exists_takeTail_eq hlength₁
    rw [htail, htail₁]
    simp only [codePoint, takeTail, List.length_cons, List.length_nil, List.foldl_cons,
      List.foldl_nil]
    split at hlow <;> split at hhigh <;> omega
  · obtain ⟨b₁, r, hb₁, hb₁', htail, hlength₁⟩ := exists_takeTail_eq hlength
    obtain ⟨b₂, r₂, -, -, htail₁, hlength₂⟩ := exists_takeTail_eq hlength₁
    obtain ⟨b₃, r₃, -, -, htail₂, -⟩ := exists_takeTail_eq hlength₂
    rw [htail, htail₁, htail₂]
    simp only [codePoint, takeTail, List.length_cons, List.length_nil, List.foldl_cons,
      List.foldl_nil]
    split at hlow <;> split at hhigh <;> omega

/-- A number that is no code point gives the first character. -/
theorem toNat_charOfNat (n : Nat) : (Char.ofNat n).toNat = if n.isValidChar then n else 0 := by
  by_cases h : n.isValidChar
  · have hn : Char.ofNat n = Char.ofNatAux n h := dif_pos h
    rw [hn, if_pos h]
    rfl
  · have hn : Char.ofNat n = '\x00' := dif_neg h
    rw [hn, if_neg h]
    rfl

/-- A character of ASCII comes from its octet. -/
theorem toNat_of_first (h0 : 0 < (first b rest).1.toNat) (hascii : (first b rest).1.toNat < 0x80) :
    b.toNat = (first b rest).1.toNat ∧ (first b rest).2 = 0 := by
  by_cases hb : b < 0x80
  · have hvalid : b.toNat.isValidChar := Or.inl (Nat.lt_trans b.toNat_lt (by decide))
    rw [first_of_lt (UInt8.lt_iff_toNat_lt.1 hb), toNat_charOfNat, if_pos hvalid]
    exact ⟨rfl, rfl⟩
  · exfalso
    have hreplacement : ¬ replacement.toNat < 0x80 := by decide
    rw [first, if_neg hb] at h0 hascii
    cases hcont : continuation b with
    | none =>
      rw [hcont] at hascii
      exact hreplacement hascii
    | some found =>
      obtain ⟨n, low, high⟩ := found
      simp only [hcont] at h0 hascii
      split at hascii
      · next hlength =>
        have hle := le_codePoint hcont hlength
        rw [if_pos hlength, toNat_charOfNat] at h0
        rw [toNat_charOfNat] at hascii
        split at hascii
        · omega
        · next hinvalid => rw [if_neg hinvalid] at h0; omega
      · exact hreplacement hascii

/-- Every character of ASCII comes from its octet. -/
theorem decodeChars_eq_append_cons_iff (h0 : 0 < c.toNat) (hc : c.toNat < 0x80) :
    decodeChars r = u ++ c :: v ↔
      ∃ a b, r = a ++ UInt8.ofNat c.toNat :: b ∧ decodeChars a = u ∧ decodeChars b = v := by
  have hoctet : (UInt8.ofNat c.toNat).toNat = c.toNat := toNat_octet (by omega)
  have hcut (a b : Bytes) : decodeChars (a ++ UInt8.ofNat c.toNat :: b) =
      decodeChars a ++ c :: decodeChars b := by
    rw [decodeChars_append_cons (by omega), hoctet, Char.ofNat_toNat]
  constructor
  · intro h
    suffices hr : ∃ a b, r = a ++ UInt8.ofNat c.toNat :: b ∧ decodeChars b = v by
      obtain ⟨a, b, rfl, rfl⟩ := hr
      exact ⟨a, b, rfl, List.append_cancel_right ((hcut a b).symm.trans h), rfl⟩
    -- the octets in front are those of the characters in front
    induction u generalizing r with
    | nil =>
      cases r with
      | nil => rw [decodeChars] at h; cases h
      | cons b rest =>
        rw [decodeChars_cons, List.nil_append, List.cons.injEq] at h
        obtain ⟨hfirst, hrest⟩ := h
        obtain ⟨hb, hnone⟩ := toNat_of_first (hfirst ▸ h0) (hfirst ▸ hc)
        refine ⟨[], rest, ?_, by rwa [hnone, List.drop_zero] at hrest⟩
        rw [List.nil_append, List.cons.injEq, ← UInt8.toNat_inj, hoctet, hb, hfirst]
        exact ⟨rfl, rfl⟩
    | cons c' u ih =>
      cases r with
      | nil => rw [decodeChars] at h; cases h
      | cons b rest =>
        rw [decodeChars_cons, List.cons_append, List.cons.injEq] at h
        obtain ⟨a, b', hdrop, hb'⟩ := ih h.2
        refine ⟨b :: rest.take (first b rest).2 ++ a, b', ?_, hb'⟩
        rw [List.cons_append, List.cons_append, List.append_assoc, ← hdrop, List.take_append_drop]
  · rintro ⟨a, b, rfl, rfl, rfl⟩
    exact hcut a b

theorem notMem_decodeChars (h0 : 0 < c.toNat) (hc : c.toNat < 0x80)
    (h : UInt8.ofNat c.toNat ∉ r) : c ∉ decodeChars r := by
  intro hmem
  obtain ⟨u, v, huv⟩ := List.append_of_mem hmem
  obtain ⟨a, b, rfl, -⟩ := (decodeChars_eq_append_cons_iff h0 hc).1 huv
  exact h (List.mem_append_right a List.mem_cons_self)

/-! ## Well-formed octets -/

/-- Whether an octet continues a character, wherever it is not the first that does. -/
def IsTail (b : UInt8) : Prop := 0x80 ≤ b.toNat ∧ b.toNat ≤ 0xBF

variable {b₁ b₂ b₃ : UInt8}

theorem takeTail_of_isTail (h : IsTail b) (n : Nat) (r : Bytes) :
    takeTail (n + 1) 0x80 0xBF (b :: r) = b :: takeTail n 0x80 0xBF r := by
  rw [takeTail_cons]
  exact if_pos h

theorem not_lt_ascii (h : 0xC2 ≤ b.toNat) : ¬ b < 0x80 := by
  rw [UInt8.lt_iff_toNat_lt]
  exact Nat.not_lt.2 (Nat.le_trans (by decide) h)

theorem first_two (hb : 0xC2 ≤ b.toNat ∧ b.toNat ≤ 0xDF) (h₁ : IsTail b₁) (r : Bytes) :
    first b (b₁ :: r) = (Char.ofNat (b.toNat % 32 * 64 + b₁.toNat % 64), 1) := by
  obtain ⟨n, low, high, hcont⟩ := exists_continuation (b := b) (by omega) (by omega)
  rcases continuation_cases hcont with ⟨rfl, -, -, hlow, hhigh⟩ | ⟨-, h, -⟩ | ⟨-, h, -⟩
  · have htail : takeTail 1 low high (b₁ :: r) = [b₁] := by
      rw [takeTail_cons, hlow, hhigh]
      exact if_pos h₁
    simp only [first, if_neg (not_lt_ascii hb.1), hcont, htail, codePoint, List.length_cons,
      List.length_nil, List.foldl_cons, List.foldl_nil, if_true]
  · omega
  · omega

theorem first_three (hb : 0xE0 ≤ b.toNat ∧ b.toNat ≤ 0xEF)
    (h₁ : (if b.toNat = 0xE0 then 0xA0 else 0x80) ≤ b₁.toNat ∧
      b₁.toNat ≤ (if b.toNat = 0xED then 0x9F else 0xBF)) (h₂ : IsTail b₂) (r : Bytes) :
    first b (b₁ :: b₂ :: r) =
      (Char.ofNat ((b.toNat % 16 * 64 + b₁.toNat % 64) * 64 + b₂.toNat % 64), 2) := by
  obtain ⟨n, low, high, hcont⟩ := exists_continuation (b := b) (by omega) (by omega)
  rcases continuation_cases hcont with ⟨-, -, h, -⟩ | ⟨rfl, -, -, hlow, hhigh⟩ | ⟨-, h, -⟩
  · omega
  · have htail : takeTail 2 low high (b₁ :: b₂ :: r) = [b₁, b₂] := by
      rw [takeTail_cons, hlow, hhigh, if_pos h₁, takeTail_of_isTail h₂]
      rfl
    simp only [first, if_neg (not_lt_ascii (Nat.le_trans (by decide) hb.1)), hcont, htail,
      codePoint, List.length_cons, List.length_nil, List.foldl_cons, List.foldl_nil, if_true]
  · omega

theorem first_four (hb : 0xF0 ≤ b.toNat ∧ b.toNat ≤ 0xF4)
    (h₁ : (if b.toNat = 0xF0 then 0x90 else 0x80) ≤ b₁.toNat ∧
      b₁.toNat ≤ (if b.toNat = 0xF4 then 0x8F else 0xBF))
    (h₂ : IsTail b₂) (h₃ : IsTail b₃) (r : Bytes) :
    first b (b₁ :: b₂ :: b₃ :: r) =
      (Char.ofNat (((b.toNat % 8 * 64 + b₁.toNat % 64) * 64 + b₂.toNat % 64) * 64 +
        b₃.toNat % 64), 3) := by
  obtain ⟨n, low, high, hcont⟩ := exists_continuation (b := b) (by omega) (by omega)
  rcases continuation_cases hcont with ⟨-, -, h, -⟩ | ⟨-, -, h, -⟩ | ⟨rfl, -, -, hlow, hhigh⟩
  · omega
  · omega
  · have htail : takeTail 3 low high (b₁ :: b₂ :: b₃ :: r) = [b₁, b₂, b₃] := by
      rw [takeTail_cons, hlow, hhigh, if_pos h₁, takeTail_of_isTail h₂, takeTail_of_isTail h₃]
      rfl
    simp only [first, if_neg (not_lt_ascii (Nat.le_trans (by decide) hb.1)), hcont, htail,
      codePoint, List.length_cons, List.length_nil, List.foldl_cons, List.foldl_nil, if_true]

theorem isTail_octet (k : Nat) : IsTail (UInt8.ofNat (k % 64 + 128)) := by
  rw [IsTail, toNat_octet (by omega)]
  omega

/-- The octets of a character are read as this character. -/
theorem first_utf8EncodeChar (c : Char) (r : Bytes) :
    ∃ b tail, String.utf8EncodeChar c = b :: tail ∧ first b (tail ++ r) = (c, tail.length) := by
  have hvalid : c.val.toNat < 0xD800 ∨ 0xDFFF < c.val.toNat ∧ c.val.toNat < 0x110000 := c.valid
  have hchar : Char.ofNat c.val.toNat = c := Char.ofNat_toNat c
  rw [String.utf8EncodeChar]
  generalize c.val.toNat = v at hvalid hchar
  split
  · next h1 =>
    have hb : (UInt8.ofNat v).toNat = v := toNat_octet (by omega)
    refine ⟨_, _, rfl, (first_of_lt (by omega) r).trans ?_⟩
    rw [hb, hchar]
    rfl
  · split
    · next h1 h2 =>
      have hb : (UInt8.ofNat (v / 64 % 32 + 192)).toNat = v / 64 % 32 + 192 :=
        toNat_octet (by omega)
      refine ⟨_, _, rfl, (first_two (by omega) (isTail_octet v) r).trans ?_⟩
      rw [hb, toNat_octet (by omega), Prod.mk.injEq, ← hchar]
      exact ⟨congrArg Char.ofNat (by omega), rfl⟩
    · split
      · next h1 h2 h3 =>
        have hb : (UInt8.ofNat (v / 4096 % 16 + 224)).toNat = v / 4096 % 16 + 224 :=
          toNat_octet (by omega)
        have hb₁ : (UInt8.ofNat (v / 64 % 64 + 128)).toNat = v / 64 % 64 + 128 :=
          toNat_octet (by omega)
        refine ⟨_, _, rfl, (first_three (by omega) ?_ (isTail_octet v) r).trans ?_⟩
        · rw [hb, hb₁]
          split <;> split <;> omega
        · rw [hb, hb₁, toNat_octet (by omega), Prod.mk.injEq, ← hchar]
          exact ⟨congrArg Char.ofNat (by omega), rfl⟩
      · next h1 h2 h3 =>
        have hb : (UInt8.ofNat (v / 262144 % 8 + 240)).toNat = v / 262144 % 8 + 240 :=
          toNat_octet (by omega)
        have hb₁ : (UInt8.ofNat (v / 4096 % 64 + 128)).toNat = v / 4096 % 64 + 128 :=
          toNat_octet (by omega)
        refine ⟨_, _, rfl,
          (first_four (by omega) ?_ (isTail_octet (v / 64)) (isTail_octet v) r).trans ?_⟩
        · rw [hb, hb₁]
          split <;> split <;> omega
        · rw [hb, hb₁, toNat_octet (by omega), toNat_octet (by omega), Prod.mk.injEq, ← hchar]
          exact ⟨congrArg Char.ofNat (by omega), rfl⟩

theorem decodeChars_flatMap (s : List Char) :
    decodeChars (s.flatMap String.utf8EncodeChar) = s := by
  induction s with
  | nil => rw [List.flatMap_nil, decodeChars]
  | cons c s ih =>
    obtain ⟨b, tail, hc, hfirst⟩ := first_utf8EncodeChar c (s.flatMap String.utf8EncodeChar)
    rw [List.flatMap_cons, hc, List.cons_append, decodeChars_cons, hfirst, List.drop_left, ih]

/-- Any octets are read character by character. -/
theorem toList_decodeLossy (r : Bytes) : (decodeLossy r).toList = decodeChars r := by
  rw [decodeLossy]
  cases h : decode? r with
  | none => rw [Option.getD_none, String.toList_ofList]
  | some s =>
    rw [Option.getD_some, ← decode?_eq_some_iff.1 h, encode_eq_flatMap, decodeChars_flatMap]

/-! ## Texts of ASCII -/

/-- A text of ASCII, without the first character. -/
def IsAscii (s : List Char) : Prop := ∀ c ∈ s, 0 < c.toNat ∧ c.toNat < 0x80

instance (s : List Char) : Decidable (IsAscii s) :=
  List.decidableBAll (fun c : Char => 0 < c.toNat ∧ c.toNat < 0x80) s

theorem decodeChars_eq_nil_iff : decodeChars r = [] ↔ r = [] := by
  cases r with
  | nil => exact iff_of_true (by rw [decodeChars]) rfl
  | cons b r =>
    rw [decodeChars_cons]
    exact iff_of_false (List.cons_ne_nil _ _) (List.cons_ne_nil _ _)

/-- A text has an ending in ASCII exactly where the octets have it. -/
theorem decodeChars_eq_append_iff (hw : IsAscii w) :
    decodeChars r = u ++ w ↔ ∃ a, r = a ++ encode (String.ofList w) ∧ decodeChars a = u := by
  induction w generalizing r u with
  | nil =>
    have hnil : encode (String.ofList []) = [] := rfl
    simp [hnil]
  | cons c w ih =>
    obtain ⟨⟨h0, hc⟩, hw⟩ := List.forall_mem_cons.1 hw
    have hend {b : Bytes} : decodeChars b = w ↔ b = encode (String.ofList w) := by
      have h := ih (r := b) (u := []) hw
      simpa [decodeChars_eq_nil_iff] using h
    rw [decodeChars_eq_append_cons_iff h0 hc]
    simp only [hend, encode_ofList, List.flatMap_cons, utf8EncodeChar_of_lt hc]
    constructor
    · rintro ⟨a, b, rfl, ha, rfl⟩
      exact ⟨a, rfl, ha⟩
    · rintro ⟨a, rfl, ha⟩
      exact ⟨a, _, rfl, ha, rfl⟩

theorem suffix_decodeChars_iff (hw : IsAscii w) :
    w <:+ decodeChars r ↔ encode (String.ofList w) <:+ r := by
  constructor
  · rintro ⟨u, hu⟩
    obtain ⟨a, rfl, -⟩ := (decodeChars_eq_append_iff hw).1 hu.symm
    exact List.suffix_append a _
  · rintro ⟨a, rfl⟩
    exact ⟨decodeChars a, ((decodeChars_eq_append_iff hw).2 ⟨a, rfl, rfl⟩).symm⟩

/-- A text has a beginning in ASCII exactly where the octets have it. -/
theorem decodeChars_eq_cons_iff (h0 : 0 < c.toNat) (hc : c.toNat < 0x80) :
    decodeChars r = c :: v ↔ ∃ b, r = UInt8.ofNat c.toNat :: b ∧ decodeChars b = v := by
  have h := decodeChars_eq_append_cons_iff (r := r) (u := []) (v := v) h0 hc
  rw [List.nil_append] at h
  rw [h]
  constructor
  · rintro ⟨a, b, rfl, ha, hb⟩
    obtain rfl := decodeChars_eq_nil_iff.1 ha
    exact ⟨b, rfl, hb⟩
  · rintro ⟨b, rfl, hb⟩
    exact ⟨[], b, rfl, decodeChars_eq_nil_iff.2 rfl, hb⟩

end HamlServer.Utf8
