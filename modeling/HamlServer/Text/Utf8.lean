/-!
Text as bytes.

Bytes are lists of octets.  `encode` and `decode?` are UTF-8 in the strict sense; `decodeLossy`
reads any bytes and puts U+FFFD for every longest piece that could still have become a character.

* `decode?_encode`: what was encoded is read back.
-/

namespace HamlServer

/-- A sequence of octets. -/
abbrev Bytes := List UInt8

namespace Utf8

/-- The octets of a text. -/
def encode (s : String) : Bytes := s.toByteArray.data.toList

/-- The text that the octets spell, if they are well-formed. -/
def decode? (b : Bytes) : Option String :=
  let bytes : ByteArray := ⟨b.toArray⟩
  if h : bytes.IsValidUTF8 then some ⟨bytes, h⟩ else none

/-- The number of octets that follow a first octet, with the range that the next of them must lie
in: the table of well-formed sequences. -/
def continuation (b : UInt8) : Option (Nat × UInt8 × UInt8) :=
  if 0xC2 ≤ b && b ≤ 0xDF then some (1, 0x80, 0xBF)
  else if b = 0xE0 then some (2, 0xA0, 0xBF)
  else if b = 0xED then some (2, 0x80, 0x9F)
  else if 0xE1 ≤ b && b ≤ 0xEF then some (2, 0x80, 0xBF)
  else if b = 0xF0 then some (3, 0x90, 0xBF)
  else if 0xF1 ≤ b && b ≤ 0xF3 then some (3, 0x80, 0xBF)
  else if b = 0xF4 then some (3, 0x80, 0x8F)
  else none

/-- The octets of `rest` that continue a character: at most `n`, the first between `low` and
`high`, and those after it any continuation octets. -/
def takeTail : Nat → UInt8 → UInt8 → Bytes → Bytes
  | n + 1, low, high, b :: r => if low ≤ b && b ≤ high then b :: takeTail n 0x80 0xBF r else []
  | _, _, _, _ => []

/-- The code point of a first octet and its continuation. -/
def codePoint (first : UInt8) (tail : Bytes) : Nat :=
  let head := match tail.length with
    | 0 => first.toNat
    | 1 => first.toNat % 0x20
    | 2 => first.toNat % 0x10
    | _ => first.toNat % 0x08
  tail.foldl (fun n b => n * 0x40 + b.toNat % 0x40) head

/-- The character that stands for octets that spell none. -/
def replacement : Char := '\uFFFD'

/-- The first character of some octets and the number of octets after the first that it takes;
octets that cannot go on are replaced together. -/
def first (b : UInt8) (rest : Bytes) : Char × Nat :=
  if b < 0x80 then (Char.ofNat b.toNat, 0)
  else match continuation b with
    | none => (replacement, 0)
    | some (n, low, high) =>
      let tail := takeTail n low high rest
      (if tail.length = n then Char.ofNat (codePoint b tail) else replacement, tail.length)

/-- The characters of any octets, `replacement` standing for what is not well-formed. -/
def decodeChars : Bytes → List Char
  | [] => []
  | b :: rest =>
    let (c, n) := first b rest
    c :: decodeChars (rest.drop n)
termination_by b => b.length
decreasing_by
  simp only [List.length_drop, List.length_cons]
  omega

/-- The text of any octets, `replacement` standing for what is not well-formed. -/
def decodeLossy (b : Bytes) : String :=
  (decode? b).getD (String.ofList (decodeChars b))

/-- The number of octets of a text of characters. -/
def size : List Char → Nat
  | [] => 0
  | c :: r => c.utf8Size + size r

@[simp] theorem decode?_encode (s : String) : decode? (encode s) = some s := by
  have h : (⟨s.toByteArray.data.toList.toArray⟩ : ByteArray) = s.toByteArray := by
    cases s; rfl
  simp only [decode?, encode, h]
  rw [dif_pos s.isValidUTF8]

theorem decodeLossy_encode (s : String) : decodeLossy (encode s) = s := by
  simp [decodeLossy]

end Utf8

end HamlServer
