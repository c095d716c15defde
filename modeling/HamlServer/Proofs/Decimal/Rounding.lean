import HamlServer.Decimal.Binary64
import Mathlib.Algebra.Order.Field.Power
import Mathlib.Data.Nat.Log
import Mathlib.Data.Rat.Cast.Order
import Mathlib.Tactic.FieldSimp
import Mathlib.Tactic.Linarith
import Mathlib.Tactic.NormNum
import Mathlib.Tactic.Positivity
import Mathlib.Tactic.Ring

/-!
# Rounding to floating-point numbers of 64 bits

A fraction is rounded in units of the last place of its binade, to 53 bits.  It is too large for a
finite number from half a unit behind the greatest one on: there the tie goes to the even number,
and that is the first one that is too large.

* `roundDiv_lt_iff`: what a quotient is rounded up to.
* `isSome_roundRatio_iff`: the fractions that are not too large.
* `value_of_roundRatio_one`: a natural number is rounded to the nearest of 53 bits.
* `isSome_mul_iff`, `exists_div`: products and quotients that are not too large.
-/

namespace HamlServer.Binary64

variable {num den n : Nat} {q : Int} {m a b : Magnitude}

/-! ## Quotients -/

/-- The rounded quotient is the next smaller or the next larger integer. -/
theorem roundDiv_cases (num den : Nat) :
    roundDiv num den = num / den ∧ (2 * (num % den) < den ∨
      2 * (num % den) = den ∧ num / den % 2 = 0) ∨
    roundDiv num den = num / den + 1 ∧ (den < 2 * (num % den) ∨
      2 * (num % den) = den ∧ num / den % 2 = 1) := by
  unfold roundDiv
  simp only [Bool.or_eq_true, decide_eq_true_eq, Bool.and_eq_true, beq_iff_eq]
  split
  · next h => exact Or.inr ⟨rfl, h⟩
  · next h =>
    refine Or.inl ⟨rfl, ?_⟩
    omega

/-- A quotient is rounded to less than an even integer where it is less than half a unit below. -/
theorem roundDiv_lt_iff (hden : 0 < den) (hpos : 0 < n) (heven : n % 2 = 0) :
    roundDiv num den < n ↔ 2 * num < (2 * n - 1) * den := by
  have hnum : den * (num / den) + num % den = num := Nat.div_add_mod num den
  have hmod : num % den < den := Nat.mod_lt num hden
  have hcases := roundDiv_cases num den
  generalize roundDiv num den = r at hcases ⊢
  generalize num / den = k at hcases hnum
  generalize num % den = l at hcases hnum hmod
  obtain ⟨n, rfl⟩ : ∃ i, n = i + 1 := ⟨n - 1, by omega⟩
  have hodd : 2 * (n + 1) - 1 = 2 * n + 1 := by omega
  rw [hodd, Nat.add_mul, Nat.one_mul, Nat.mul_assoc]
  rcases Nat.lt_trichotomy k n with hlt | rfl | hgt
  · have hle : (k + 1) * den ≤ n * den := Nat.mul_le_mul_right den hlt
    rw [Nat.add_mul, Nat.one_mul, Nat.mul_comm k den] at hle
    refine iff_of_true ?_ ?_
    · omega
    · omega
  · rw [Nat.mul_comm k den]
    omega
  · have hle : (n + 1) * den ≤ k * den := Nat.mul_le_mul_right den hgt
    rw [Nat.add_mul, Nat.one_mul, Nat.mul_comm k den] at hle
    refine iff_of_false ?_ ?_
    · omega
    · omega

/-! ## Units of the last place -/

theorem twoPow_eq (n : Nat) : twoPow n = 2 ^ n := rfl

theorem cast_two_pow_toNat (hq : 0 ≤ q) : ((2 ^ q.toNat : Nat) : ℚ) = 2 ^ q := by
  rw [Nat.cast_pow, Nat.cast_ofNat, ← zpow_natCast, Int.toNat_of_nonneg hq]

theorem scale_snd_pos (num : Nat) (hden : 0 < den) (q : Int) : 0 < (scale num den q).2 := by
  unfold scale
  split
  · exact hden
  · exact Nat.mul_pos hden (twoPow_pos _)

/-- Scaling divides a fraction by a power of two. -/
theorem scale_div (num den : Nat) (q : Int) :
    ((scale num den q).1 : ℚ) / (scale num den q).2 = num / den / 2 ^ q := by
  unfold scale
  split
  · next hq =>
    have hpow := cast_two_pow_toNat (Int.neg_nonneg.2 hq)
    rw [twoPow_eq, Nat.cast_mul, hpow, zpow_neg]
    field_simp
  · next hq =>
    have hpow := cast_two_pow_toNat (Int.le_of_lt (Int.not_le.1 hq))
    rw [twoPow_eq, Nat.cast_mul, hpow, div_div]

/-- The exponent of the unit of the last place in which a fraction is rounded. -/
def unitExponent (num den : Nat) : Int :=
  let q := (Nat.log2 num : Int) - Nat.log2 den - 53
  let s := scale num den q
  max (-1074) (if s.1 / s.2 < twoPow 53 then q else q + 1)

/-- The significand of a fraction that is rounded in units of the last place. -/
def roundedSignificand (num den : Nat) : Nat :=
  let s := scale num den (unitExponent num den)
  roundDiv s.1 s.2

/-- What a fraction is rounded to, be it finite or not; a significand of `2 ^ 53` is carried. -/
def rounded (num den : Nat) : Magnitude :=
  if roundedSignificand num den = twoPow 53 then ⟨twoPow 52, unitExponent num den + 1⟩
  else ⟨roundedSignificand num den, unitExponent num den⟩

theorem roundRatio_eq (hnum : num ≠ 0) :
    roundRatio num den =
      if (rounded num den).exponent ≤ 971 then some (rounded num den) else none := by
  unfold roundRatio
  rw [if_neg hnum]
  rfl

theorem roundRatio_eq_some_iff (hnum : num ≠ 0) :
    roundRatio num den = some m ↔ (rounded num den).exponent ≤ 971 ∧ rounded num den = m := by
  rw [roundRatio_eq hnum]
  split
  · next h => simp [h]
  · next h => simp [h]

/-- The binade of a number that is not zero. -/
theorem log2_bounds (hn : n ≠ 0) :
    (2 : ℚ) ^ (Nat.log2 n : Int) ≤ n ∧ (n : ℚ) < 2 ^ ((Nat.log2 n : Int) + 1) := by
  constructor
  · rw [zpow_natCast]
    exact_mod_cast Nat.log2_self_le hn
  · have hlt : n < 2 ^ (Nat.log2 n + 1) := Nat.lt_log2_self
    exact_mod_cast hlt

/-- A fraction lies within four times a power of two that its binades tell. -/
theorem ratio_bounds (hnum : num ≠ 0) (hden : 0 < den) :
    (2 : ℚ) ^ ((Nat.log2 num : Int) - Nat.log2 den - 1) ≤ num / den ∧
      (num : ℚ) / den < 2 ^ ((Nat.log2 num : Int) - Nat.log2 den + 1) := by
  obtain ⟨hnumLow, hnumHigh⟩ := log2_bounds hnum
  obtain ⟨hdenLow, hdenHigh⟩ := log2_bounds (Nat.ne_of_gt hden)
  have hdenPos : (0 : ℚ) < den := by exact_mod_cast hden
  constructor
  · rw [le_div_iff₀ hdenPos]
    calc (2 : ℚ) ^ ((Nat.log2 num : Int) - Nat.log2 den - 1) * den
      _ ≤ 2 ^ ((Nat.log2 num : Int) - Nat.log2 den - 1) * 2 ^ ((Nat.log2 den : Int) + 1) :=
        mul_le_mul_of_nonneg_left hdenHigh.le (zpow_pos two_pos _).le
      _ = 2 ^ (Nat.log2 num : Int) := by rw [← zpow_add₀ two_ne_zero]; congr 1; ring
      _ ≤ num := hnumLow
  · rw [div_lt_iff₀ hdenPos]
    calc (num : ℚ)
      _ < 2 ^ ((Nat.log2 num : Int) + 1) := hnumHigh
      _ = 2 ^ ((Nat.log2 num : Int) - Nat.log2 den + 1) * 2 ^ (Nat.log2 den : Int) := by
        rw [← zpow_add₀ two_ne_zero]; congr 1; ring
      _ ≤ 2 ^ ((Nat.log2 num : Int) - Nat.log2 den + 1) * den :=
        mul_le_mul_of_nonneg_left hdenLow (zpow_pos two_pos _).le

theorem scale_lt_iff (num : Nat) (hden : 0 < den) (q : Int) (k : Nat) :
    (scale num den q).1 / (scale num den q).2 < k ↔ (num : ℚ) / den < k * 2 ^ q := by
  have hpos := scale_snd_pos num hden q
  have hposQ : (0 : ℚ) < (scale num den q).2 := by exact_mod_cast hpos
  rw [Nat.div_lt_iff_lt_mul hpos, ← div_lt_iff₀ (zpow_pos two_pos q), ← scale_div,
    div_lt_iff₀ hposQ]
  exact_mod_cast Iff.rfl

/-- In units of the last place a fraction is less than `2 ^ 53`; and it is no less than `2 ^ 52`,
unless there are no smaller units. -/
theorem unitExponent_spec (hnum : num ≠ 0) (hden : 0 < den) :
    (num : ℚ) / den < 2 ^ 53 * 2 ^ unitExponent num den ∧
      (unitExponent num den = -1074 ∨ 2 ^ 52 * 2 ^ unitExponent num den ≤ (num : ℚ) / den) := by
  obtain ⟨hlow, hhigh⟩ := ratio_bounds hnum hden
  obtain ⟨p, hunit, hlt, hle⟩ : ∃ p : Int, unitExponent num den = max (-1074) p ∧
      (num : ℚ) / den < 2 ^ 53 * 2 ^ p ∧ 2 ^ 52 * 2 ^ p ≤ (num : ℚ) / den := by
    refine ⟨_, rfl, ?_⟩
    have hiff := scale_lt_iff num hden (Nat.log2 num - Nat.log2 den - 53) (twoPow 53)
    rw [twoPow_eq, Nat.cast_pow, Nat.cast_ofNat] at hiff
    split
    · next hfit =>
      refine ⟨hiff.1 hfit, le_trans (le_of_eq ?_) hlow⟩
      rw [← zpow_natCast, ← zpow_add₀ two_ne_zero]
      congr 1
      push_cast
      ring
    · next hfit =>
      have hlarge := not_lt.1 (mt hiff.2 hfit)
      refine ⟨lt_of_lt_of_eq hhigh ?_, le_trans (le_of_eq ?_) hlarge⟩
      · rw [← zpow_natCast, ← zpow_add₀ two_ne_zero]
        congr 1
        push_cast
        ring
      · rw [zpow_add_one₀ two_ne_zero]
        ring
  rw [hunit]
  rcases le_total p (-1074) with hp | hp
  · rw [max_eq_left hp]
    refine ⟨lt_of_lt_of_le hlt ?_, Or.inl rfl⟩
    exact mul_le_mul_of_nonneg_left (zpow_le_zpow_right₀ one_le_two hp) (by positivity)
  · rw [max_eq_right hp]
    exact ⟨hlt, Or.inr hle⟩

/-! ## What is too large -/

/-- From here on a number is too large: half a unit of the last place behind the greatest finite
one. -/
def overflow : Nat := (2 ^ 54 - 1) * 2 ^ 970

theorem cast_overflow : (overflow : ℚ) = (2 ^ 54 - 1) * 2 ^ (970 : Int) := by
  have hfront : ((2 ^ 54 - 1 : Nat) : ℚ) = 2 ^ 54 - 1 := by norm_num
  rw [overflow, Nat.cast_mul, Nat.cast_pow, hfront, Nat.cast_ofNat]
  rfl

theorem roundedSignificand_lt_iff (num : Nat) (hden : 0 < den) (hpos : 0 < n)
    (heven : n % 2 = 0) :
    roundedSignificand num den < n ↔
      (num : ℚ) / den < (2 * n - 1) / 2 * 2 ^ unitExponent num den := by
  have hpos' := scale_snd_pos num hden (unitExponent num den)
  have hposQ : (0 : ℚ) < (scale num den (unitExponent num den)).2 := by exact_mod_cast hpos'
  unfold roundedSignificand
  rw [roundDiv_lt_iff hpos' hpos heven, ← div_lt_iff₀ (zpow_pos two_pos _), ← scale_div,
    div_lt_iff₀ hposQ]
  generalize (scale num den (unitExponent num den)).1 = x
  generalize (scale num den (unitExponent num den)).2 = y
  have hcast : ((2 * n - 1 : Nat) : ℚ) = 2 * n - 1 := by
    rw [Nat.cast_sub (by omega)]
    push_cast
    rfl
  rw [← Nat.cast_lt (α := ℚ), Nat.cast_mul, Nat.cast_mul, hcast, Nat.cast_ofNat]
  constructor
  · intro h
    linarith
  · intro h
    linarith

/-- A fraction is rounded to no more than `2 ^ 53` units of the last place. -/
theorem roundedSignificand_le (hnum : num ≠ 0) (hden : 0 < den) :
    roundedSignificand num den ≤ twoPow 53 := by
  have hfloor : (scale num den (unitExponent num den)).1 /
      (scale num den (unitExponent num den)).2 < twoPow 53 := by
    rw [scale_lt_iff num hden, twoPow_eq, Nat.cast_pow, Nat.cast_ofNat]
    exact (unitExponent_spec hnum hden).1
  unfold roundedSignificand
  rcases roundDiv_cases (scale num den (unitExponent num den)).1
    (scale num den (unitExponent num den)).2 with ⟨hr, -⟩ | ⟨hr, -⟩
  · rw [hr]
    exact hfloor.le
  · rw [hr]
    exact hfloor

theorem exponent_rounded_le_iff : (rounded num den).exponent ≤ 971 ↔
    unitExponent num den < 971 ∨
      unitExponent num den = 971 ∧ roundedSignificand num den ≠ twoPow 53 := by
  unfold rounded
  split
  · next hr =>
    show unitExponent num den + 1 ≤ 971 ↔ _
    omega
  · next hr =>
    show unitExponent num den ≤ 971 ↔ _
    omega

/-- The fractions that are not too large for a finite number. -/
theorem isSome_roundRatio_iff (hden : 0 < den) :
    (roundRatio num den).isSome = true ↔ (num : ℚ) / den < overflow := by
  by_cases hnum : num = 0
  · have hpos : (0 : ℚ) < overflow := by
      rw [cast_overflow]
      positivity
    rw [hnum, Nat.cast_zero, zero_div]
    exact iff_of_true rfl hpos
  · obtain ⟨hlt, hle⟩ := unitExponent_spec hnum hden
    have hsome : (roundRatio num den).isSome = true ↔ (rounded num den).exponent ≤ 971 := by
      rw [roundRatio_eq hnum]
      split
      · next h => exact iff_of_true rfl h
      · next h => exact iff_of_false Bool.false_ne_true h
    rw [hsome, exponent_rounded_le_iff, cast_overflow]
    rcases lt_trichotomy (unitExponent num den) 971 with hq | hq | hq
    · -- the whole binade is finite
      refine iff_of_true (Or.inl hq) (lt_of_lt_of_le hlt ?_)
      have hpow : (2 : ℚ) ^ unitExponent num den ≤ 2 ^ (970 : Int) :=
        zpow_le_zpow_right₀ one_le_two (Int.le_of_lt_add_one hq)
      exact mul_le_mul (by norm_num) hpow (zpow_pos two_pos _).le (by norm_num)
    · -- in the last binade it depends on the rounding
      have hpos : 0 < twoPow 53 := twoPow_pos 53
      have hrounded := roundedSignificand_lt_iff num hden hpos (by decide)
      have hmost := roundedSignificand_le hnum hden
      have hunit : (2 * (twoPow 53 : ℚ) - 1) / 2 * 2 ^ (971 : Int) =
          (2 ^ 54 - 1) * 2 ^ (970 : Int) := by
        have hnext : (2 : ℚ) ^ (971 : Int) = 2 ^ (970 : Int) * 2 := zpow_add_one₀ two_ne_zero 970
        rw [hnext, twoPow_eq, Nat.cast_pow, Nat.cast_ofNat]
        ring
      rw [hq, hunit] at hrounded
      rw [← hrounded, hq]
      omega
    · -- beyond it nothing is finite
      refine iff_of_false (by omega) (not_lt.2 ?_)
      have hpow : (2 : ℚ) ^ (972 : Int) ≤ 2 ^ unitExponent num den :=
        zpow_le_zpow_right₀ one_le_two (Int.add_one_le_of_lt hq)
      have hnext : (2 : ℚ) ^ (972 : Int) = 2 ^ (970 : Int) * 2 ^ 2 := by
        rw [← zpow_natCast, ← zpow_add₀ two_ne_zero]
        rfl
      have hlarge := hle.resolve_left (by omega)
      have hpos : (0 : ℚ) < 2 ^ (970 : Int) := zpow_pos two_pos 970
      rw [hnext] at hpow
      generalize (2 : ℚ) ^ (970 : Int) = p at hpow hpos ⊢
      linarith

/-! ## Values -/

/-- The value of a magnitude. -/
def Magnitude.value (m : Magnitude) : ℚ := m.significand * 2 ^ m.exponent

theorem Magnitude.ratio_snd_pos (m : Magnitude) : 0 < m.ratio.2 := by
  unfold ratio
  split
  · exact Nat.one_pos
  · exact twoPow_pos _

theorem Magnitude.ratio_div (m : Magnitude) : (m.ratio.1 : ℚ) / m.ratio.2 = m.value := by
  unfold ratio value
  split
  · next h =>
    rw [twoPow_eq, Nat.cast_mul, cast_two_pow_toNat h, Nat.cast_one, div_one]
  · next h =>
    have hneg : 0 ≤ -m.exponent := Int.neg_nonneg.2 (Int.le_of_lt (Int.not_le.1 h))
    rw [twoPow_eq, cast_two_pow_toNat hneg, zpow_neg, div_inv_eq_mul]

theorem value_rounded (num den : Nat) :
    (rounded num den).value = roundedSignificand num den * 2 ^ unitExponent num den := by
  unfold rounded Magnitude.value
  split
  · next hr =>
    rw [hr, twoPow_eq, twoPow_eq, zpow_add_one₀ two_ne_zero]
    push_cast
    ring
  · rfl

/-- What comes out of rounding is finite. -/
theorem value_lt_overflow (hden : 0 < den) (h : roundRatio num den = some m) :
    m.value < overflow := by
  rw [cast_overflow]
  by_cases hnum : num = 0
  · rw [hnum] at h
    obtain rfl : (⟨0, -1074⟩ : Magnitude) = m := Option.some.inj h
    rw [Magnitude.value, Nat.cast_zero, zero_mul]
    positivity
  · obtain ⟨hexponent, rfl⟩ := (roundRatio_eq_some_iff hnum).1 h
    have hmost := roundedSignificand_le hnum hden
    have hsignificand : (rounded num den).significand ≤ 2 ^ 53 - 1 := by
      unfold rounded
      split
      · show twoPow 52 ≤ _
        rw [twoPow_eq]
        norm_num
      · next hr =>
        rw [twoPow_eq] at hr hmost
        show roundedSignificand num den ≤ _
        omega
    have hpow : (2 : ℚ) ^ (rounded num den).exponent ≤ 2 ^ (971 : Int) :=
      zpow_le_zpow_right₀ one_le_two hexponent
    have hnext : (2 : ℚ) ^ (971 : Int) = 2 ^ (970 : Int) * 2 := zpow_add_one₀ two_ne_zero 970
    calc (rounded num den).value
      _ ≤ ((2 ^ 53 - 1 : Nat) : ℚ) * 2 ^ (971 : Int) :=
        mul_le_mul (by exact_mod_cast hsignificand) hpow (zpow_pos two_pos _).le (Nat.cast_nonneg _)
      _ < (2 ^ 54 - 1) * 2 ^ (970 : Int) := by
        rw [hnext]
        have hpos : (0 : ℚ) < 2 ^ (970 : Int) := zpow_pos two_pos 970
        generalize (2 : ℚ) ^ (970 : Int) = p at hpos ⊢
        norm_num
        linarith

/-! ## Natural numbers -/

/-- The number of at most 53 bits that is nearest to a natural number; of two, the one with the even
significand. -/
def nearest (n : Nat) : Nat :=
  roundDiv n (2 ^ (Nat.log2 n - 52)) * 2 ^ (Nat.log2 n - 52)

theorem unitExponent_one (hn : n ≠ 0) : unitExponent n 1 = Nat.log2 n - 52 := by
  obtain ⟨hlt, hle⟩ := unitExponent_spec hn Nat.one_pos
  obtain ⟨hlow, hhigh⟩ := log2_bounds hn
  rw [Nat.cast_one, div_one, ← zpow_natCast, ← zpow_add₀ two_ne_zero] at hlt hle
  have hupper : (Nat.log2 n : Int) < ((53 : Nat) : Int) + unitExponent n 1 :=
    (zpow_lt_zpow_iff_right₀ one_lt_two).1 (lt_of_le_of_lt hlow hlt)
  rcases hle with hleast | hle
  · omega
  · have hlower : ((52 : Nat) : Int) + unitExponent n 1 < (Nat.log2 n : Int) + 1 :=
      (zpow_lt_zpow_iff_right₀ one_lt_two).1 (lt_of_le_of_lt hle hhigh)
    omega

theorem roundDiv_one (n : Nat) : roundDiv n 1 = n := by
  have hcases := roundDiv_cases n 1
  rw [Nat.div_one, Nat.mod_one] at hcases
  omega

/-- A natural number is rounded to the nearest one of 53 bits. -/
theorem value_of_roundRatio_one (h : roundRatio n 1 = some m) : m.value = nearest n := by
  by_cases hn : n = 0
  · rw [hn] at h ⊢
    obtain rfl : (⟨0, -1074⟩ : Magnitude) = m := Option.some.inj h
    have hzero : nearest 0 = 0 := Nat.mul_one _
    rw [hzero, Magnitude.value, Nat.cast_zero, zero_mul]
  · obtain ⟨-, rfl⟩ := (roundRatio_eq_some_iff hn).1 h
    rw [value_rounded, roundedSignificand, unitExponent_one hn, nearest]
    rcases Nat.le_total (Nat.log2 n) 52 with hlog | hlog
    · -- the number has no more bits and is kept
      have hle : (Nat.log2 n : Int) - 52 ≤ 0 := by omega
      have hpow := cast_two_pow_toNat (Int.neg_nonneg.2 hle)
      rw [scale, if_pos hle, roundDiv_one, Nat.sub_eq_zero_of_le hlog, Nat.pow_zero, roundDiv_one,
        twoPow_eq, Nat.cast_mul, hpow, mul_assoc, ← zpow_add₀ two_ne_zero, neg_add_cancel,
        zpow_zero, Nat.mul_one, mul_one]
    · have hunit : (Nat.log2 n : Int) - 52 = ((Nat.log2 n - 52 : Nat) : Int) := by omega
      rw [hunit]
      generalize Nat.log2 n - 52 = k
      have hscale : scale n 1 k = (n, 2 ^ k) := by
        unfold scale
        rw [Int.toNat_natCast, Nat.one_mul, twoPow_eq]
        split
        · next hk =>
          obtain rfl : k = 0 := by omega
          simp
        · rfl
      rw [hscale, zpow_natCast, Nat.cast_mul, Nat.cast_pow, Nat.cast_ofNat]

theorem one_le_nearest (hn : n ≠ 0) : 1 ≤ nearest n := by
  have hle : 2 ^ (Nat.log2 n - 52) ≤ n :=
    Nat.le_trans (Nat.pow_le_pow_right (by decide) (Nat.sub_le _ _)) (Nat.log2_self_le hn)
  have hquotient : 1 ≤ n / 2 ^ (Nat.log2 n - 52) := Nat.div_pos hle (Nat.two_pow_pos _)
  have hround : 0 < roundDiv n (2 ^ (Nat.log2 n - 52)) := by
    have hcases := roundDiv_cases n (2 ^ (Nat.log2 n - 52))
    omega
  exact Nat.mul_pos hround (Nat.two_pow_pos _)

/-! ## Products and quotients -/

/-- The products that are not too large. -/
theorem isSome_mul_iff : (a.mul b).isSome = true ↔ a.value * b.value < overflow := by
  have hden : 0 < a.ratio.2 * b.ratio.2 := Nat.mul_pos a.ratio_snd_pos b.ratio_snd_pos
  have hsome : (a.mul b).isSome = true ↔
      ((a.ratio.1 * b.ratio.1 : Nat) : ℚ) / (a.ratio.2 * b.ratio.2 : Nat) < overflow :=
    isSome_roundRatio_iff hden
  rw [hsome, Nat.cast_mul, Nat.cast_mul, mul_div_mul_comm, a.ratio_div, b.ratio_div]

/-- A quotient by what is no less than one is not too large. -/
theorem exists_div (ha : a.value < overflow) (hb : 1 ≤ b.value) :
    ∃ m, a.div b = some m ∧ m.value < overflow := by
  have hpos : 0 < b.ratio.1 := by
    refine Nat.pos_of_ne_zero fun hzero => ?_
    rw [← b.ratio_div, hzero, Nat.cast_zero, zero_div] at hb
    exact absurd hb (by norm_num)
  have hden : 0 < a.ratio.2 * b.ratio.1 := Nat.mul_pos a.ratio_snd_pos hpos
  have hsome : (a.div b).isSome = true ↔
      ((a.ratio.1 * b.ratio.2 : Nat) : ℚ) / (a.ratio.2 * b.ratio.1 : Nat) < overflow :=
    isSome_roundRatio_iff hden
  have hlt : a.value / b.value < overflow := by
    rw [div_lt_iff₀ (lt_of_lt_of_le one_pos hb)]
    calc a.value
      _ < overflow := ha
      _ ≤ overflow * b.value := le_mul_of_one_le_right (Nat.cast_nonneg _) hb
  rw [Nat.cast_mul, Nat.cast_mul, ← div_div_div_eq, a.ratio_div, b.ratio_div] at hsome
  obtain ⟨m, hm⟩ := Option.isSome_iff_exists.1 (hsome.2 hlt)
  exact ⟨m, hm, value_lt_overflow hden hm⟩

end HamlServer.Binary64
