import HamlServer.Decimal.Shortest
import HamlServer.Text.Digits

/-!
Numbers of JSON.

An integer that fits a signed or an unsigned word of 64 bits stays exact; every other numeral is
read as a floating-point number.  A floating-point number is printed with the fewest digits that
read back, and always so that it does not look like an integer.
-/

namespace HamlServer.Json

/-- A JSON number: an integer, or a finite floating-point number. -/
inductive Number where
  | int (n : Int)
  | real (x : Binary64)
  deriving DecidableEq, Repr

/-- A numeral as it is written: an optional minus sign, digits, and perhaps a fraction and an
exponent. -/
structure Numeral where
  negative : Bool
  whole : List Nat
  fraction : Option (List Nat)
  exponent : Option (Bool × List Nat)
  deriving DecidableEq, Repr

/-- The least signed word. -/
def minInt : Int := -(twoPow 63)

/-- The greatest unsigned word. -/
def maxWord : Nat := twoPow 64 - 1

/-- Digits taken into an unsigned word for as long as the word holds them: the word, and the digits
left over. -/
def takeDigits : Nat → List Nat → Nat × List Nat
  | n, [] => (n, [])
  | n, d :: ds => if 10 * n + d ≤ maxWord then takeDigits (10 * n + d) ds else (n, d :: ds)

/-- The magnitude `significand * 10 ^ exponent`: both factors are rounded, and then their product or
quotient.  An exponent below -308 is divided out in steps.  `none` when the result is too large. -/
def decimalMagnitude : Nat → Binary64.Magnitude → Int → Option Binary64.Magnitude
  | 0, _, _ => some ⟨0, -1074⟩
  | steps + 1, m, e =>
    if m.significand = 0 then some m
    else if 308 < e then none
    else if 0 ≤ e then (Binary64.roundRatio (tenPow e.toNat) 1).bind m.mul
    else if -308 ≤ e then (Binary64.roundRatio (tenPow (-e).toNat) 1).bind m.div
    else
      ((Binary64.roundRatio (tenPow 308) 1).bind m.div).bind fun m =>
        decimalMagnitude steps m (e + 308)

/-- The largest exponent that is added to the place of the point; a larger one stands for any. -/
def maxExponent : Nat := twoPow 31 - 1

/-- The floating-point number of a numeral, `none` when it is too large. -/
def Numeral.real? (n : Numeral) : Option Binary64 :=
  let (word, dropped) := takeDigits 0 n.whole
  let behind := n.fraction.getD []
  let (word, rest) := takeDigits word behind
  let place : Int := (dropped.length : Int) + rest.length - behind.length
  let make (m : Binary64.Magnitude) := Binary64.ofMagnitude n.negative m
  match n.exponent with
  | none => ((Binary64.roundRatio word 1).bind (decimalMagnitude 4 · place)).map make
  | some (negativeExponent, ds) =>
    let e := Text.ofDigits 10 ds
    if maxExponent < e then
      if word = 0 ∨ negativeExponent then some (make ⟨0, -1074⟩) else none
    else
      let place := if negativeExponent then place - e else place + e
      ((Binary64.roundRatio word 1).bind (decimalMagnitude 4 · place)).map make

/-- The number of a numeral: an integer when it is written as one, fits a word and is not minus
zero. -/
def Numeral.value? (n : Numeral) : Option Number :=
  let magnitude := Text.ofDigits 10 n.whole
  let value : Int := if n.negative then -magnitude else magnitude
  if n.fraction.isNone && n.exponent.isNone && minInt ≤ value && value ≤ maxWord &&
      !(n.negative && magnitude == 0) then
    some (.int value)
  else n.real?.map .real

/-- The decimal digits of a natural number. -/
def digits (n : Nat) : String := Nat.repr n

/-- A positive decimal, with a point: in full where the point lies within or next to sixteen digits,
and otherwise with an exponent. -/
def renderScientific (s : Decimal.Scientific) : String :=
  let ds := (digits s.digits).toList
  let place := (ds.length : Int) + s.exponent
  if 0 ≤ s.exponent ∧ place ≤ 16 then
    String.ofList (ds ++ List.replicate s.exponent.toNat '0') ++ ".0"
  else if 0 < place ∧ place ≤ 16 then
    String.ofList (ds.take place.toNat ++ '.' :: ds.drop place.toNat)
  else if -5 < place ∧ place ≤ 0 then
    "0." ++ String.ofList (List.replicate (-place).toNat '0' ++ ds)
  else
    let mantissa := if ds.length = 1 then ds else ds.take 1 ++ '.' :: ds.drop 1
    String.ofList mantissa ++ "e" ++ toString (place - 1)

/-- A number as text. -/
def Number.render : Number → String
  | .int n => toString n
  | .real x =>
    let sign := if x.isNegative then "-" else ""
    let m := x.magnitude
    sign ++ if m.significand = 0 then "0.0" else renderScientific (Decimal.shortest m)

end HamlServer.Json
