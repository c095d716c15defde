import HamlServer.Text.Utf8

/-!
Percent-encoding of octets.

`encodeSegment` writes the octets of one path segment: octets that would end the segment or mean
something else in a URL, controls and octets outside ASCII are written as `%` and two digits.
`decode` reads any text and leaves a `%` without two hexadecimal digits as it is.
-/

namespace HamlServer.Percent

/-- The octets of a path segment that are written by their number. -/
def isEncoded (b : UInt8) : Bool :=
  b < 0x20 || 0x7F ≤ b || "\"#%/<>?\\`\x7b\x7d ".toList.any fun c => c.toNat == b.toNat

/-- An upper-case hexadecimal digit. -/
def hexChar (n : Nat) : Char := if n < 10 then Char.ofNat (48 + n) else Char.ofNat (55 + n)

/-- One octet of a path segment. -/
def encodeOctet (b : UInt8) : List Char :=
  if isEncoded b then ['%', hexChar (b.toNat / 16), hexChar (b.toNat % 16)]
  else [Char.ofNat b.toNat]

/-- The octets of a path segment. -/
def encodeSegment (b : Bytes) : List Char := b.flatMap encodeOctet

/-- The value of an octet that spells a hexadecimal digit. -/
def hexValue? (b : UInt8) : Option UInt8 :=
  if 48 ≤ b ∧ b ≤ 57 then some (b - 48)
  else if 97 ≤ b ∧ b ≤ 102 then some (b - 87)
  else if 65 ≤ b ∧ b ≤ 70 then some (b - 55)
  else none

/-- The octets that percent-encoded octets stand for. -/
def decode : Bytes → Bytes
  | 37 :: a :: b :: r =>
    match hexValue? a, hexValue? b with
    | some x, some y => (x * 16 + y) :: decode r
    | _, _ => 37 :: decode (a :: b :: r)
  | b :: r => b :: decode r
  | [] => []

end HamlServer.Percent
