import HamlServer.Json.Number
import HamlServer.Proofs.Decimal.Rounding

/-!
# Numerals that have a value

A numeral is read by its first digits, as many as a word holds, and by the place at which they end.
The number that they spell is rounded and then multiplied with the rounded power of ten of the
place, or divided by it.  So it is this product that has to be finite, not the number that the
numeral stands for: the decimal text of the greatest finite number is one that has no value.

* `Takes.takeDigits_eq`, `Numeral.exists_leads`: the digits that a numeral is read by.
* `isSome_decimal_iff`: where their number is finite.
* `Numeral.isSome_value?_iff`: the numerals that have a value.
-/

namespace HamlServer.Json

open Text Binary64

variable {n : Numeral} {before ds front left : List Nat} {word k : Nat} {place e : Int}
  {m : Magnitude}

/-! ## Digits that are taken -/

/-- The longest front of some digits whose number, behind digits that are taken already, a word
still holds. -/
structure Takes (before ds front left : List Nat) : Prop where
  eq_append : ds = front ++ left
  fits : ofDigits 10 (before ++ front) ≤ maxWord
  full : ∀ d ∈ left.head?, maxWord < ofDigits 10 (before ++ front ++ [d])

theorem ofDigits_concat (ds : List Nat) (d : Nat) :
    ofDigits 10 (ds ++ [d]) = 10 * ofDigits 10 ds + d := by
  rw [ofDigits, List.foldl_append]
  rfl

theorem ofDigits_le_append (ds more : List Nat) : ofDigits 10 ds ≤ ofDigits 10 (ds ++ more) := by
  induction more using List.reverseRecOn with
  | nil => rw [List.append_nil]
  | append_singleton more d ih =>
    rw [← List.append_assoc, ofDigits_concat]
    omega

/-- The digits that are taken are the longest front. -/
theorem exists_takes (hfits : ofDigits 10 before ≤ maxWord) (ds : List Nat) :
    ∃ front left, Takes before ds front left := by
  induction ds generalizing before with
  | nil =>
    refine ⟨[], [], rfl, ?_, fun d hd => by cases hd⟩
    rwa [List.append_nil]
  | cons d ds ih =>
    by_cases hd : ofDigits 10 (before ++ [d]) ≤ maxWord
    · obtain ⟨front, left, happend, hfront, hfull⟩ := ih hd
      refine ⟨d :: front, left, by rw [happend, List.cons_append], ?_, fun d' hd' => ?_⟩
      · rwa [List.append_assoc, List.singleton_append] at hfront
      · have hlarge := hfull d' hd'
        rwa [List.append_assoc before, List.singleton_append] at hlarge
    · refine ⟨[], d :: ds, rfl, ?_, fun d' hd' => ?_⟩
      · rwa [List.append_nil]
      · obtain rfl := Option.some.inj hd'
        rw [List.append_nil]
        exact Nat.lt_of_not_le hd

theorem Takes.takeDigits_eq (h : Takes before ds front left) :
    takeDigits (ofDigits 10 before) ds = (ofDigits 10 (before ++ front), left) := by
  obtain ⟨rfl, hfits, hfull⟩ := h
  induction front generalizing before with
  | nil =>
    rw [List.append_nil, List.nil_append]
    cases left with
    | nil => rfl
    | cons d left =>
      have hlarge := hfull d rfl
      rw [List.append_nil, ofDigits_concat] at hlarge
      rw [takeDigits, if_neg (Nat.not_le.2 hlarge)]
  | cons d front ih =>
    have hstep : 10 * ofDigits 10 before + d = ofDigits 10 (before ++ [d]) :=
      (ofDigits_concat before d).symm
    rw [← List.singleton_append, ← List.append_assoc] at hfits hfull
    have hle : ofDigits 10 (before ++ [d]) ≤ maxWord :=
      Nat.le_trans (ofDigits_le_append (before ++ [d]) front) hfits
    rw [List.cons_append, takeDigits, hstep, if_pos hle, ih hfits hfull, List.append_assoc,
      List.singleton_append]

/-- What a numeral is read by: the number that its first digits spell, and the place at which they
end, as a power of ten.  The digits before the point are taken as long as a word holds them, and
then those behind it. -/
inductive Numeral.Leads (n : Numeral) : Nat → Int → Prop where
  | intro {front dropped behind rest : List Nat} (whole : Takes [] n.whole front dropped)
      (fraction : Takes front (n.fraction.getD []) behind rest) :
      Leads n (ofDigits 10 (front ++ behind)) (dropped.length - behind.length)

theorem Numeral.exists_leads (n : Numeral) : ∃ word place, n.Leads word place := by
  obtain ⟨front, dropped, hwhole⟩ : ∃ front left, Takes [] n.whole front left :=
    exists_takes (Nat.zero_le _) n.whole
  obtain ⟨behind, rest, hfraction⟩ := exists_takes hwhole.fits (n.fraction.getD [])
  exact ⟨_, _, .intro hwhole hfraction⟩

theorem Numeral.Leads.word_le (h : n.Leads word place) : word ≤ maxWord := by
  cases h with
  | intro whole fraction => exact fraction.fits

/-! ## Powers of ten -/

/-- A number of a word is not too large. -/
theorem isSome_roundRatio_of_le (h : word ≤ maxWord) : (roundRatio word 1).isSome = true := by
  have hlt : maxWord < overflow := by decide +kernel
  rw [isSome_roundRatio_iff Nat.one_pos, Nat.cast_one, div_one]
  exact_mod_cast Nat.lt_of_le_of_lt h hlt

theorem tenPow_le {l : Nat} (h : k ≤ l) : tenPow k ≤ tenPow l :=
  Nat.pow_le_pow_right (by decide) h

/-- The powers of ten that are not too large. -/
theorem exists_tenPow (h : k ≤ 308) :
    ∃ b, roundRatio (tenPow k) 1 = some b ∧ b.value = nearest (10 ^ k) ∧ 1 ≤ b.value := by
  have hlt : tenPow k < overflow := by
    have hlast : tenPow 308 < overflow := by decide +kernel
    exact Nat.lt_of_le_of_lt (tenPow_le h) hlast
  have hsome : (roundRatio (tenPow k) 1).isSome = true := by
    rw [isSome_roundRatio_iff Nat.one_pos, Nat.cast_one, div_one]
    exact_mod_cast hlt
  obtain ⟨b, hb⟩ := Option.isSome_iff_exists.1 hsome
  have hvalue : b.value = nearest (10 ^ k) := value_of_roundRatio_one hb
  refine ⟨b, hb, hvalue, ?_⟩
  rw [hvalue]
  exact_mod_cast one_le_nearest (Nat.ne_of_gt (tenPow_pos k))

/-- Divided by a power of ten, no number is too large. -/
theorem isSome_decimalMagnitude_of_neg (steps : Nat) (hm : m.value < overflow) (he : e < 0) :
    (decimalMagnitude steps m e).isSome = true := by
  induction steps generalizing m e with
  | zero => rfl
  | succ steps ih =>
    rw [decimalMagnitude]
    split
    · rfl
    · rw [if_neg (by omega), if_neg (by omega)]
      split
      · next hlow =>
        obtain ⟨b, hb, -, hone⟩ := exists_tenPow (show (-e).toNat ≤ 308 by omega)
        obtain ⟨quotient, hquotient, -⟩ := exists_div hm hone
        rw [hb, Option.bind_some, hquotient, Option.isSome_some]
      · next hlow =>
        obtain ⟨b, hb, -, hone⟩ := exists_tenPow (Nat.le_refl 308)
        obtain ⟨quotient, hquotient, hlt⟩ := exists_div hm hone
        rw [hb, Option.bind_some, hquotient, Option.bind_some]
        exact ih hlt (by omega)

/-- Multiplied with a power of ten, a number may be too large; and powers above the greatest in the
table always are. -/
theorem isSome_decimalMagnitude_of_nonneg (steps : Nat) (hm : m.significand ≠ 0) (he : 0 ≤ e) :
    (decimalMagnitude (steps + 1) m e).isSome = true ↔
      e ≤ 308 ∧ m.value * nearest (10 ^ e.toNat) < overflow := by
  rw [decimalMagnitude, if_neg hm]
  by_cases hlarge : 308 < e
  · rw [if_pos hlarge]
    exact iff_of_false Bool.false_ne_true fun h => absurd h.1 (Int.not_le.2 hlarge)
  · obtain ⟨b, hb, hvalue, -⟩ := exists_tenPow (show e.toNat ≤ 308 by omega)
    rw [if_neg hlarge, if_pos he, hb, Option.bind_some, isSome_mul_iff, hvalue]
    exact (and_iff_right (Int.not_lt.1 hlarge)).symm

/-! ## Finite numerals -/

/-- Whether the number of a word at a place is finite as it is read: zero is, and so is what is
divided by a power of ten.  A product with a power of ten is finite if the power is in the table,
which ends at `10 ^ 308`, and the product of the two rounded factors is not too large. -/
def FiniteAt (word : Nat) (place : Int) : Prop :=
  word = 0 ∨ place < 0 ∨ place ≤ 308 ∧ nearest word * nearest (10 ^ place.toNat) < overflow

instance (word : Nat) (place : Int) : Decidable (FiniteAt word place) :=
  inferInstanceAs (Decidable (_ ∨ _ ∨ _))

theorem isSome_decimal_iff (hword : word ≤ maxWord) (place : Int) :
    ((roundRatio word 1).bind (decimalMagnitude 4 · place)).isSome = true ↔
      FiniteAt word place := by
  obtain ⟨m, hm⟩ := Option.isSome_iff_exists.1 (isSome_roundRatio_of_le hword)
  have hvalue : m.value = nearest word := value_of_roundRatio_one hm
  rw [hm, Option.bind_some, FiniteAt]
  by_cases hzero : word = 0
  · rw [hzero] at hm
    obtain rfl : (⟨0, -1074⟩ : Magnitude) = m := Option.some.inj hm
    exact iff_of_true rfl (Or.inl hzero)
  · rw [or_iff_right hzero]
    rcases Int.lt_or_le place 0 with hplace | hplace
    · have hlt : m.value < overflow := value_lt_overflow Nat.one_pos hm
      exact iff_of_true (isSome_decimalMagnitude_of_neg 4 hlt hplace) (Or.inl hplace)
    · have hsignificand : m.significand ≠ 0 := by
        intro h
        have hone : (1 : ℚ) ≤ nearest word := by exact_mod_cast one_le_nearest hzero
        rw [← hvalue, Magnitude.value, h, Nat.cast_zero, zero_mul] at hone
        exact absurd hone (by norm_num)
      rw [or_iff_right (Int.not_lt.2 hplace),
        isSome_decimalMagnitude_of_nonneg 3 hsignificand hplace, hvalue]
      exact_mod_cast Iff.rfl

/-- The greatest number of 53 bits, in full: its first twenty digits fit a word, but their product
with the power of ten of the others is too large. -/
example : ¬ FiniteAt 17976931348623157081 289 := by decide +kernel

/-- Whether the number of a word at a place is finite behind which an exponent may stand.  It moves
the place; one of more than 31 bits stands for any. -/
def FiniteWith (word : Nat) (place : Int) : Option (Bool × List Nat) → Prop
  | none => FiniteAt word place
  | some (negative, ds) =>
    if maxExponent < ofDigits 10 ds then word = 0 ∨ negative = true
    else FiniteAt word (if negative then place - ofDigits 10 ds else place + ofDigits 10 ds)

/-- Whether a numeral is read as a finite number. -/
def Numeral.IsFinite (n : Numeral) : Prop :=
  ∃ word place, n.Leads word place ∧ FiniteWith word place n.exponent

theorem Numeral.Leads.isSome_real?_iff (h : n.Leads word place) :
    n.real?.isSome = true ↔ FiniteWith word place n.exponent := by
  have hword := h.word_le
  cases h with
  | @intro front dropped behind rest whole fraction =>
    have hwhole : takeDigits 0 n.whole = (ofDigits 10 front, dropped) := whole.takeDigits_eq
    have hplace : (dropped.length : Int) + rest.length - (n.fraction.getD []).length =
        dropped.length - behind.length := by
      rw [fraction.eq_append, List.length_append]
      omega
    simp only [Numeral.real?, hwhole, fraction.takeDigits_eq, hplace]
    cases n.exponent with
    | none => exact (Bool.eq_iff_iff.1 Option.isSome_map).trans (isSome_decimal_iff hword _)
    | some exponent =>
      obtain ⟨negative, ds⟩ := exponent
      unfold FiniteWith
      by_cases hlarge : maxExponent < ofDigits 10 ds
      · simp only [if_pos hlarge]
        split
        · next h => exact iff_of_true rfl h
        · next h => exact iff_of_false Bool.false_ne_true h
      · simp only [if_neg hlarge]
        exact (Bool.eq_iff_iff.1 Option.isSome_map).trans (isSome_decimal_iff hword _)

theorem Numeral.isSome_real?_iff (n : Numeral) : n.real?.isSome = true ↔ n.IsFinite := by
  constructor
  · intro h
    obtain ⟨word, place, hleads⟩ := n.exists_leads
    exact ⟨word, place, hleads, hleads.isSome_real?_iff.1 h⟩
  · intro h
    obtain ⟨word, place, hleads, hfinite⟩ := h
    exact hleads.isSome_real?_iff.2 hfinite

/-- An integer that fits a word is finite. -/
theorem Numeral.isFinite_of_integer (hfraction : n.fraction = none) (hexponent : n.exponent = none)
    (hword : ofDigits 10 n.whole ≤ maxWord) : n.IsFinite := by
  have hwhole : Takes [] n.whole n.whole [] :=
    ⟨(List.append_nil _).symm, hword, fun d hd => by cases hd⟩
  have hnone : Takes n.whole (n.fraction.getD []) [] [] := by
    rw [hfraction]
    refine ⟨rfl, ?_, fun d hd => by cases hd⟩
    rwa [List.append_nil]
  refine ⟨_, _, .intro hwhole hnone, ?_⟩
  rw [hexponent, List.append_nil]
  show FiniteAt (ofDigits 10 n.whole) 0
  obtain ⟨m, hm⟩ := Option.isSome_iff_exists.1 (isSome_roundRatio_of_le hword)
  have hlt : m.value < overflow := value_lt_overflow Nat.one_pos hm
  have hone : nearest (10 ^ (0 : Int).toNat) = 1 := rfl
  rw [value_of_roundRatio_one hm] at hlt
  refine Or.inr (Or.inr ⟨by decide, ?_⟩)
  rw [hone, Nat.mul_one]
  exact_mod_cast hlt

/-- The numerals that have a value. -/
theorem Numeral.isSome_value?_iff (n : Numeral) : n.value?.isSome = true ↔ n.IsFinite := by
  simp only [value?]
  generalize hvalue : (if n.negative = true then -(ofDigits 10 n.whole : Int)
    else (ofDigits 10 n.whole : Int)) = value
  split
  · next h =>
    simp only [Bool.and_eq_true, Option.isNone_iff_eq_none, decide_eq_true_eq] at h
    obtain ⟨⟨⟨⟨hfraction, hexponent⟩, hlower⟩, hupper⟩, -⟩ := h
    refine iff_of_true rfl (isFinite_of_integer hfraction hexponent ?_)
    have hleast : -minInt ≤ maxWord := by decide
    split at hvalue
    · omega
    · omega
  · rw [Option.isSome_map, isSome_real?_iff]

end HamlServer.Json
