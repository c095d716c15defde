import HamlServer.Decimal.Power

/-!
Binary floating-point numbers of 64 bits, in exact arithmetic.

A number is held by its bits.  Every finite one is `m * 2 ^ q` for a significand `m` below `2 ^ 53`
and an exponent `q` from -1074 to 971; rounding goes to the nearest, and a tie to the even
significand.
-/

namespace HamlServer

/-- A floating-point number of 64 bits, by its bits. -/
structure Binary64 where
  bits : UInt64
  deriving DecidableEq, Repr, Inhabited

/-- A number as it may be written: finite, infinite, or none at all. -/
inductive Double where
  | finite (x : Binary64)
  | infinite (negative : Bool)
  | notANumber
  deriving DecidableEq, Repr

namespace Binary64

/-- A finite magnitude `significand * 2 ^ exponent`. -/
structure Magnitude where
  significand : Nat
  exponent : Int
  deriving DecidableEq, Repr

/-- Whether the sign bit is set. -/
def isNegative (x : Binary64) : Bool := twoPow 63 ≤ x.bits.toNat

/-- The magnitude of a finite number. -/
def magnitude (x : Binary64) : Magnitude :=
  let fraction : Nat := x.bits.toNat % twoPow 52
  let biased : Nat := x.bits.toNat / twoPow 52 % twoPow 11
  if biased = 0 then ⟨fraction, -1074⟩ else ⟨twoPow 52 + fraction, (biased : Int) - 1075⟩

/-- The number with a sign and a magnitude. -/
def ofMagnitude (negative : Bool) (m : Magnitude) : Binary64 :=
  let sign := if negative then twoPow 63 else 0
  let body :=
    if m.significand < twoPow 52 then m.significand
    else (m.exponent + 1075).toNat * twoPow 52 + (m.significand - twoPow 52)
  ⟨UInt64.ofNat (sign + body)⟩

/-- The quotient `num / den`, to the nearest integer and a tie to the even one. -/
def roundDiv (num den : Nat) : Nat :=
  let q := num / den
  let r := num % den
  if den < 2 * r || (2 * r == den && q % 2 == 1) then q + 1 else q

/-- The fraction `num / den` divided by `2 ^ q`, as a fraction. -/
def scale (num den : Nat) (q : Int) : Nat × Nat :=
  if q ≤ 0 then (num * twoPow (-q).toNat, den) else (num, den * twoPow q.toNat)

/-- The magnitude nearest to `num / den`, a tie going to the even significand; `none` when it is
too large for a finite number. -/
def roundRatio (num den : Nat) : Option Magnitude :=
  if num = 0 then some ⟨0, -1074⟩
  else
    let q := (Nat.log2 num : Int) - Nat.log2 den - 53
    let (n, d) := scale num den q
    let q := max (-1074) (if n / d < twoPow 53 then q else q + 1)
    let (n, d) := scale num den q
    let m := roundDiv n d
    let result : Magnitude := if m = twoPow 53 then ⟨twoPow 52, q + 1⟩ else ⟨m, q⟩
    if result.exponent ≤ 971 then some result else none

/-- A magnitude as a fraction. -/
def Magnitude.ratio (m : Magnitude) : Nat × Nat :=
  if 0 ≤ m.exponent then (m.significand * twoPow m.exponent.toNat, 1)
  else (m.significand, twoPow (-m.exponent).toNat)

/-- The rounded product of two magnitudes. -/
def Magnitude.mul (a b : Magnitude) : Option Magnitude :=
  let (an, ad) := a.ratio
  let (bn, bd) := b.ratio
  roundRatio (an * bn) (ad * bd)

/-- The rounded quotient of two magnitudes. -/
def Magnitude.div (a b : Magnitude) : Option Magnitude :=
  let (an, ad) := a.ratio
  let (bn, bd) := b.ratio
  roundRatio (an * bd) (ad * bn)

/-- The number of decimal digits of a natural number; zero has none. -/
def decimalLength (n : Nat) : Nat := if n = 0 then 0 else (Nat.toDigits 10 n).length

/-- The magnitude nearest to `digits * 10 ^ exponent`; `none` when it is too large.  Exponents far
from the digits are not carried out. -/
def Magnitude.ofDecimal? (digits : Nat) (exponent : Int) : Option Magnitude :=
  let place := decimalLength digits + exponent
  if digits = 0 ∨ place < -330 then some ⟨0, -1074⟩
  else if 320 < place then none
  else if 0 ≤ exponent then roundRatio (digits * tenPow exponent.toNat) 1
  else roundRatio digits (tenPow (-exponent).toNat)

end Binary64

end HamlServer
