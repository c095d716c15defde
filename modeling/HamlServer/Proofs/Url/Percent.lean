import HamlServer.Proofs.Text.Lossy
import HamlServer.Url.Percent

/-!
# Percent-encoded segments

The octets of a name are written as visible characters of ASCII, none of which separates segments
or ends the path of a URL.  Every `%` that is written starts an octet written by its number, so the
octets are read back from what is written, whatever follows.

* `encodeOctet_cases`: an octet is written by its number or as its character.
* `isSegmentChar_of_mem_encodeSegment`: the characters of a written segment.
* `decode_encodeSegment`: the octets of a segment are read back.
-/

namespace HamlServer.Percent

variable {b : UInt8} {c : Char} {d : Nat} {m n : Bytes}

/-- A character that a written segment may hold. -/
structure IsSegmentChar (c : Char) : Prop where
  gt : 0x20 < c.toNat
  lt : c.toNat < 0x7F
  ne_slash : c ≠ '/'
  ne_backslash : c ≠ '\\'
  ne_question : c ≠ '?'
  ne_hash : c ≠ '#'

/-! ## Octets by their number -/

theorem hexValue?_hexChar :
    ∀ d < 16, hexValue? (UInt8.ofNat (hexChar d).toNat) = some (UInt8.ofNat d) := by
  decide

theorem isSegmentChar_hexChar (h : d < 16) : IsSegmentChar (hexChar d) := by
  have hdigit : ∀ d < 16, 0x2F < (hexChar d).toNat ∧ (hexChar d).toNat < 0x47 ∧
      hexChar d ≠ '?' := by
    decide
  obtain ⟨hlow, hhigh, hquestion⟩ := hdigit d h
  have hne {x : Char} (hx : x.toNat ≤ 0x2F ∨ 0x47 ≤ x.toNat) : hexChar d ≠ x := by
    intro he
    rw [he] at hlow hhigh
    omega
  exact ⟨by omega, by omega, hne (by decide), hne (by decide), hquestion, hne (by decide)⟩

/-- Two digits are read as the octet that they were written for. -/
theorem hexDigits_octet (b : UInt8) :
    UInt8.ofNat (b.toNat / 16) * 16 + UInt8.ofNat (b.toNat % 16) = b := by
  have hb : b.toNat < 256 := b.toNat_lt
  rw [← UInt8.toNat_inj, UInt8.toNat_add, UInt8.toNat_mul, Utf8.toNat_octet (by omega),
    Utf8.toNat_octet (by omega)]
  show (b.toNat / 16 * 16 % 256 + b.toNat % 16) % 256 = b.toNat
  omega

/-! ## Octets as characters -/

theorem toNat_ofNat_octet (b : UInt8) : (Char.ofNat b.toNat).toNat = b.toNat := by
  have hb : b.toNat < 256 := b.toNat_lt
  rw [Utf8.toNat_charOfNat, if_pos (Or.inl (by omega))]

theorem isSegmentChar_of_not_isEncoded (h : isEncoded b = false) :
    IsSegmentChar (Char.ofNat b.toNat) ∧ b ≠ 37 := by
  unfold isEncoded at h
  rw [Bool.or_eq_false_iff, Bool.or_eq_false_iff, decide_eq_false_iff_not,
    decide_eq_false_iff_not, UInt8.lt_iff_toNat_lt, UInt8.le_iff_toNat_le, List.any_eq_false] at h
  obtain ⟨⟨hlow, hhigh⟩, hother⟩ := h
  change ¬ b.toNat < 0x20 at hlow
  change ¬ 0x7F ≤ b.toNat at hhigh
  have hne {x : Char} (hx : x ∈ "\"#%/<>?\\`\x7b\x7d ".toList) : Char.ofNat b.toNat ≠ x := by
    intro he
    apply hother x hx
    rw [beq_iff_eq, ← he, toNat_ofNat_octet]
  have hspace : b.toNat ≠ 0x20 := by
    intro he
    exact hne (x := ' ') (by decide) (by rw [he])
  refine ⟨⟨?_, ?_, ?_, ?_, ?_, ?_⟩, ?_⟩
  · rw [toNat_ofNat_octet]
    omega
  · rw [toNat_ofNat_octet]
    omega
  · exact hne (by decide)
  · exact hne (by decide)
  · exact hne (by decide)
  · exact hne (by decide)
  · rintro rfl
    exact hne (x := '%') (by decide) rfl

/-- An octet is written by its number or as its character; a `%` is only written in front of a
number. -/
theorem encodeOctet_cases (b : UInt8) :
    (isEncoded b = true ∧
      encodeOctet b = ['%', hexChar (b.toNat / 16), hexChar (b.toNat % 16)]) ∨
    (encodeOctet b = [Char.ofNat b.toNat] ∧ IsSegmentChar (Char.ofNat b.toNat) ∧ b ≠ 37) := by
  unfold encodeOctet
  cases h : isEncoded b with
  | true => exact Or.inl ⟨rfl, rfl⟩
  | false => exact Or.inr ⟨rfl, isSegmentChar_of_not_isEncoded h⟩

theorem isSegmentChar_of_mem_encodeOctet (h : c ∈ encodeOctet b) : IsSegmentChar c := by
  have hb : b.toNat < 256 := b.toNat_lt
  rcases encodeOctet_cases b with ⟨-, hnumber⟩ | ⟨hsame, hchar, -⟩
  · rw [hnumber, List.mem_cons, List.mem_cons, List.mem_singleton] at h
    rcases h with rfl | rfl | rfl
    · exact ⟨by decide, by decide, by decide, by decide, by decide, by decide⟩
    · exact isSegmentChar_hexChar (by omega)
    · exact isSegmentChar_hexChar (by omega)
  · rw [hsame, List.mem_singleton] at h
    rwa [h]

/-- The characters of a written segment. -/
theorem isSegmentChar_of_mem_encodeSegment (h : c ∈ encodeSegment n) : IsSegmentChar c := by
  obtain ⟨b, -, hc⟩ := List.mem_flatMap.1 h
  exact isSegmentChar_of_mem_encodeOctet hc

theorem encodeSegment_ne_nil (h : n ≠ []) : encodeSegment n ≠ [] := by
  obtain ⟨b, r, rfl⟩ := List.exists_cons_of_ne_nil h
  have hb : encodeOctet b ≠ [] := by
    rcases encodeOctet_cases b with ⟨-, hb⟩ | ⟨hb, -⟩ <;> simp [hb]
  exact List.append_ne_nil_of_left_ne_nil hb _

/-! ## Reading back -/

theorem decode_cons_of_ne (h : b ≠ 37) (r : Bytes) : decode (b :: r) = b :: decode r := by
  rw [decode]
  intro x y r' he
  exact absurd he h

theorem decode_encodeOctet (b : UInt8) (r : Bytes) :
    decode ((encodeOctet b).flatMap String.utf8EncodeChar ++ r) = b :: decode r := by
  have hb : b.toNat < 256 := b.toNat_lt
  have hoctets {c : Char} (hc : IsSegmentChar c) :
      String.utf8EncodeChar c = [UInt8.ofNat c.toNat] :=
    Utf8.utf8EncodeChar_of_lt (Nat.lt_succ_of_lt hc.lt)
  rcases encodeOctet_cases b with ⟨-, hnumber⟩ | ⟨hsame, hchar, hne⟩
  · have hmark : String.utf8EncodeChar '%' = [37] := rfl
    rw [hnumber]
    simp only [List.flatMap_cons, List.flatMap_nil, hmark,
      hoctets (isSegmentChar_hexChar (show b.toNat / 16 < 16 by omega)),
      hoctets (isSegmentChar_hexChar (show b.toNat % 16 < 16 by omega)), List.cons_append,
      List.nil_append, decode, hexValue?_hexChar _ (show b.toNat / 16 < 16 by omega),
      hexValue?_hexChar _ (show b.toNat % 16 < 16 by omega), hexDigits_octet]
  · have hoctet : UInt8.ofNat (Char.ofNat b.toNat).toNat = b := by
      rw [toNat_ofNat_octet, UInt8.ofNat_toNat]
    rw [hsame, List.flatMap_singleton, hoctets hchar, hoctet, List.singleton_append,
      decode_cons_of_ne hne]

/-- The octets of a segment are read back, whatever follows it. -/
theorem decode_encodeSegment (n r : Bytes) :
    decode ((encodeSegment n).flatMap String.utf8EncodeChar ++ r) = n ++ decode r := by
  induction n with
  | nil => rfl
  | cons b n ih =>
    have hcons : encodeSegment (b :: n) = encodeOctet b ++ encodeSegment n := rfl
    rw [hcons, List.flatMap_append, List.append_assoc, decode_encodeOctet, ih, List.cons_append]

/-- What is written for a segment tells its octets. -/
theorem encodeSegment_inj : encodeSegment m = encodeSegment n ↔ m = n := by
  constructor
  · intro h
    have hm := decode_encodeSegment m []
    rw [h, decode_encodeSegment] at hm
    exact (List.append_cancel_right hm).symm
  · rintro rfl
    rfl

end HamlServer.Percent
