import HamlServer.Text.Utf8

/-!
# The octets of a text

`Utf8.encode` goes character by character, and an octet below `0x80` stands only for the character
with that code point.  So a line feed among the octets is a line feed of the text.  The size of a
text is counted in octets, too.
-/

namespace HamlServer.Utf8

theorem encode_append (s t : String) : encode (s ++ t) = encode s ++ encode t := by
  rw [encode, String.toByteArray_append]
  simp [encode]

theorem encode_eq_flatMap (s : String) : encode s = s.toList.flatMap String.utf8EncodeChar := by
  have h : s.toByteArray = (s.toList.flatMap String.utf8EncodeChar).toByteArray := by
    rw [← String.utf8Encode_toList]
    rfl
  rw [encode, h]
  simp

/-- Octets are read as the text that they are the octets of. -/
theorem decode?_eq_some_iff {b : Bytes} {s : String} : decode? b = some s ↔ encode s = b := by
  constructor
  · intro h
    simp only [decode?] at h
    split at h
    · obtain rfl := Option.some.inj h
      rfl
    · cases h
  · rintro rfl
    exact decode?_encode s

theorem encode_ne_nil {s : String} (h : s ≠ "") : encode s ≠ [] := by
  intro hnil
  rw [encode_eq_flatMap, List.flatMap_eq_nil_iff] at hnil
  obtain ⟨c, r, hs⟩ := List.exists_cons_of_ne_nil (mt String.toList_eq_nil_iff.1 h)
  exact String.utf8EncodeChar_ne_nil (hnil c (by rw [hs]; exact List.mem_cons_self))

theorem toNat_octet {n : Nat} (h : n < 256) : (UInt8.ofNat n).toNat = n :=
  UInt8.toNat_ofNat_of_lt' h

/-- A character of ASCII is its own octet. -/
theorem utf8EncodeChar_of_lt {c : Char} (h : c.toNat < 0x80) :
    String.utf8EncodeChar c = [UInt8.ofNat c.toNat] :=
  if_pos (Nat.le_of_lt_succ h)

/-- An octet of ASCII in the octets of one character is that character. -/
theorem toNat_of_mem_utf8EncodeChar {b : UInt8} {c : Char} (hb : b.toNat < 0x80)
    (h : b ∈ String.utf8EncodeChar c) : c.toNat = b.toNat := by
  have high (x : Nat) (hlo : 0x80 ≤ x) (hhi : x < 256) : b ≠ UInt8.ofNat x := by
    intro he
    rw [he, UInt8.toNat_ofNat'] at hb
    omega
  rw [String.utf8EncodeChar] at h
  split at h
  · next hv =>
    rw [List.mem_singleton.1 h, UInt8.toNat_ofNat']
    show c.val.toNat = c.val.toNat % 256
    omega
  · -- all octets of a longer character are above ASCII
    split at h
    · simp only [List.mem_cons, List.not_mem_nil, or_false] at h
      rcases h with h | h
      · exact absurd h (high _ (by omega) (by omega))
      · exact absurd h (high _ (by omega) (by omega))
    · split at h
      · simp only [List.mem_cons, List.not_mem_nil, or_false] at h
        rcases h with h | h | h
        · exact absurd h (high _ (by omega) (by omega))
        · exact absurd h (high _ (by omega) (by omega))
        · exact absurd h (high _ (by omega) (by omega))
      · simp only [List.mem_cons, List.not_mem_nil, or_false] at h
        rcases h with h | h | h | h
        · exact absurd h (high _ (by omega) (by omega))
        · exact absurd h (high _ (by omega) (by omega))
        · exact absurd h (high _ (by omega) (by omega))
        · exact absurd h (high _ (by omega) (by omega))

/-- Where the octet of a character of ASCII is among the octets of a text, the text has that
character. -/
theorem mem_of_mem_encode {c : Char} (hc : c.toNat < 0x80) {s : String}
    (h : UInt8.ofNat c.toNat ∈ encode s) : c ∈ s.toList := by
  have hoctet : (UInt8.ofNat c.toNat).toNat = c.toNat := toNat_octet (by omega)
  rw [encode_eq_flatMap, List.mem_flatMap] at h
  obtain ⟨x, hx, hb⟩ := h
  have hn : x.toNat = c.toNat := by
    rw [toNat_of_mem_utf8EncodeChar (by omega) hb, hoctet]
  rwa [← Char.toNat_inj.1 hn]

/-- A text that ends with the octet of a character of ASCII ends with that character. -/
theorem exists_of_encode_eq_concat {c : Char} (hc : c.toNat < 0x80) {s : String} {b : Bytes}
    (h : encode s = b ++ [UInt8.ofNat c.toNat]) :
    ∃ l, s = String.ofList (l ++ [c]) ∧ l.flatMap String.utf8EncodeChar = b := by
  rcases List.eq_nil_or_concat s.toList with hnil | ⟨l, x, hlast⟩
  · rw [encode_eq_flatMap, hnil] at h
    exact absurd h.symm (List.append_ne_nil_of_right_ne_nil b (List.cons_ne_nil _ _))
  · rw [List.concat_eq_append] at hlast
    rw [encode_eq_flatMap, hlast, List.flatMap_append, List.flatMap_singleton] at h
    have hmem : UInt8.ofNat c.toNat ∈ String.utf8EncodeChar x := by
      have hend := congrArg List.getLast? h
      obtain ⟨y, hy⟩ :=
        Option.isSome_iff_exists.1 (List.getLast?_isSome.2 (String.utf8EncodeChar_ne_nil (c := x)))
      rw [List.getLast?_concat, List.getLast?_append, hy, Option.some_or, Option.some_inj] at hend
      rw [← hend]
      exact List.mem_of_getLast? hy
    have hoctet : (UInt8.ofNat c.toNat).toNat = c.toNat := toNat_octet (by omega)
    have hx : x = c := by
      refine Char.toNat_inj.1 ?_
      rw [toNat_of_mem_utf8EncodeChar (by omega) hmem, hoctet]
    rw [hx, utf8EncodeChar_of_lt hc] at h
    exact ⟨l, by rw [← hx, ← hlast, String.ofList_toList], List.append_cancel_right h⟩

/-- A text without a character of ASCII does not have its octet either. -/
theorem notMem_encode {c : Char} (hc : c.toNat < 0x80) {s : List Char} (h : c ∉ s) :
    UInt8.ofNat c.toNat ∉ encode (String.ofList s) := by
  intro hmem
  have hchar : c ∈ (String.ofList s).toList := mem_of_mem_encode hc hmem
  rw [String.toList_ofList] at hchar
  exact h hchar

/-- Where there is a line feed among the octets of a text, the text has one. -/
theorem mem_of_lineFeed_mem_encode {s : String} (h : 10 ∈ encode s) : '\n' ∈ s.toList :=
  mem_of_mem_encode (by decide) h

theorem encode_ofList (s : List Char) :
    encode (String.ofList s) = s.flatMap String.utf8EncodeChar := by
  rw [encode_eq_flatMap, String.toList_ofList]

theorem size_append (a b : List Char) : size (a ++ b) = size a + size b := by
  induction a with
  | nil => rw [List.nil_append, size, Nat.zero_add]
  | cons c a ih => rw [List.cons_append, size, size, ih, Nat.add_assoc]

theorem size_replicate_space (n : Nat) : size (List.replicate n ' ') = n := by
  induction n with
  | zero => rfl
  | succ n ih => rw [List.replicate_succ, size, ih, show ' '.utf8Size = 1 from rfl, Nat.add_comm]

end HamlServer.Utf8
