import HamlServer.Decimal.Power

/-!
Digits and the numbers that they spell.
-/

namespace HamlServer.Text

/-- The value of a hexadecimal digit. -/
def hexDigit? (c : Char) : Option Nat :=
  if '0' ≤ c ∧ c ≤ '9' then some (c.toNat - 48)
  else if 'a' ≤ c ∧ c ≤ 'f' then some (c.toNat - 87)
  else if 'A' ≤ c ∧ c ≤ 'F' then some (c.toNat - 55)
  else none

/-- A lower-case hexadecimal digit. -/
def hexChar (n : Nat) : Char := if n < 10 then Char.ofNat (48 + n) else Char.ofNat (87 + n)

/-- The digit that a character stands for in a base of at most sixteen. -/
def digitIn? (base : Nat) (c : Char) : Option Nat := (hexDigit? c).filter (· < base)

/-- The number that digits spell in a base. -/
def ofDigits (base : Nat) (ds : List Nat) : Nat := ds.foldl (fun n d => base * n + d) 0

/-- The number that a text of digits spells in a base; there has to be a digit. -/
def natural? (base : Nat) (s : List Char) : Option Nat :=
  if s = [] then none else (s.mapM (digitIn? base)).map (ofDigits base)

/-- A number in base ten, perhaps after one plus sign, that fits a word of 64 bits. -/
def word? (s : List Char) : Option Nat :=
  let digits := match s with
    | '+' :: r => r
    | r => r
  (natural? 10 digits).filter (· < twoPow 64)

/-- The character whose code point hexadecimal digits spell. -/
def charOfHex? (ds : List Char) : Option Char := do
  let n ← natural? 16 ds
  if n.isValidChar then some (Char.ofNat n) else none

end HamlServer.Text
