import HamlServer.Decimal.Binary64

/-!
The shortest decimal that reads back as a given binary floating-point number.

The numbers that round to `m * 2 ^ q` form an interval, its ends included when `m` is even.  Of the
decimals in it, those with the fewest digits win, and of these the one nearest to the number.
-/

namespace HamlServer.Decimal

open Binary64

/-- The positive decimal `digits * 10 ^ exponent`. -/
structure Scientific where
  digits : Nat
  exponent : Int
  deriving DecidableEq, Repr

/-- The reals that round to a number, over a common denominator. -/
structure Interval where
  low : Nat
  value : Nat
  high : Nat
  den : Nat
  closed : Bool

/-- The reals that round to a magnitude. -/
def interval (m : Magnitude) : Interval :=
  let gap := if m.significand = twoPow 52 ∧ -1074 < m.exponent then 1 else 2
  let v := 4 * m.significand
  let q := m.exponent - 2
  let up := if 0 ≤ q then twoPow q.toNat else 1
  let den := if 0 ≤ q then 1 else twoPow (-q).toNat
  ⟨(v - gap) * up, v * up, (v + 2) * up, den, m.significand % 2 == 0⟩

/-- `num / den` on the grid of multiples of `10 ^ k`, as a fraction. -/
def onGrid (num den : Nat) (k : Int) : Nat × Nat :=
  if 0 ≤ k then (num, den * tenPow k.toNat) else (num * tenPow (-k).toNat, den)

/-- Whether `d * 10 ^ k` lies in an interval. -/
def Interval.holds (i : Interval) (d : Nat) (k : Int) : Bool :=
  let (ln, ld) := onGrid i.low i.den k
  let (hn, hd) := onGrid i.high i.den k
  if i.closed then decide (ln ≤ d * ld) && decide (d * hd ≤ hn)
  else decide (ln < d * ld) && decide (d * hd < hn)

/-- The point of the grid `10 ^ k` in an interval that is nearest to its number, if one of the two
neighbours of the number lies in it. -/
def Interval.nearest? (i : Interval) (k : Int) : Option Scientific :=
  let (n, d) := onGrid i.value i.den k
  let below := n / d
  let above := below + 1
  match i.holds below k, i.holds above k with
  | true, true =>
    let r := 2 * (n % d)
    if r < d || (r == d && below % 2 == 0) then some ⟨below, k⟩ else some ⟨above, k⟩
  | true, false => some ⟨below, k⟩
  | false, true => some ⟨above, k⟩
  | false, false => none

/-- The number of digits before the decimal point of `num / den`, or minus the number of zeros
behind it, found by trying exponents upwards from `k`. -/
def pointPlace (num den : Nat) : Nat → Int → Int
  | 0, k => k
  | fuel + 1, k =>
    let (n, d) := onGrid num den k
    if n < d then k else pointPlace num den fuel (k + 1)

/-- A decimal without zeros at the end of its digits. -/
def stripZeros : Nat → Scientific → Scientific
  | 0, s => s
  | fuel + 1, s =>
    if s.digits ≠ 0 ∧ s.digits % 10 = 0 then stripZeros fuel ⟨s.digits / 10, s.exponent + 1⟩ else s

/-- The shortest decimal that rounds to a positive magnitude. -/
def shortest (m : Magnitude) : Scientific :=
  let i := interval m
  let place := pointPlace i.value i.den 640 (-330)
  let found := (List.range 17).findSome? fun (n : Nat) => i.nearest? (place - (n + 1))
  stripZeros 18 (found.getD ⟨0, 0⟩)

end HamlServer.Decimal
