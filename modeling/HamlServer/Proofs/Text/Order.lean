import HamlServer.Files.Path
import HamlServer.Proofs.Text.Utf8
import Mathlib.Data.String.Basic

/-!
# The order of texts and of their octets

Texts are compared character by character, names octet by octet.  A longer character begins with a
greater octet, and among characters of one length the octets are digits of the code point, the first
ones first.  So the order of texts is that of their octets.

* `utf8EncodeChar_append_lt`: the octets of a smaller character come first, whatever follows.
* `octetsLe_encode_iff`: the order of octets is that of texts.
-/

namespace HamlServer.Utf8

variable {p q a b : Bytes} {x y : UInt8} {c c' : Char} {s t : List Char}

/-! ## Octets -/

theorem octetsLe_iff : Component.octetsLe a b = true ↔ ¬ b < a := by
  induction a generalizing b with
  | nil => simp [Component.octetsLe]
  | cons x a ih =>
    cases b with
    | nil => simp [Component.octetsLe]
    | cons y b =>
      rw [Component.octetsLe, List.cons_lt_cons_iff, Bool.or_eq_true, Bool.and_eq_true, ih,
        decide_eq_true_eq, beq_iff_eq, UInt8.lt_iff_toNat_lt, UInt8.lt_iff_toNat_lt,
        ← UInt8.toNat_inj, ← UInt8.toNat_inj]
      rcases Nat.lt_trichotomy x.toNat y.toNat with hlt | heq | hgt
      · simp [hlt, Nat.lt_asymm hlt, Nat.ne_of_gt hlt]
      · simp [heq]
      · simp [hgt, Nat.lt_asymm hgt, Nat.ne_of_gt hgt]

/-- What differs early is decided there. -/
theorem append_lt_append (hlength : p.length = q.length) (h : p < q) (a b : Bytes) :
    p ++ a < q ++ b := by
  induction p generalizing q with
  | nil =>
    rw [List.eq_nil_of_length_eq_zero hlength.symm] at h
    exact absurd h (by simp)
  | cons x p ih =>
    cases q with
    | nil => cases hlength
    | cons y q =>
      rw [List.cons_append, List.cons_append]
      rw [List.cons_lt_cons_iff] at h ⊢
      exact h.imp_right fun ⟨hxy, hlt⟩ => ⟨hxy, ih (Nat.succ.inj hlength) hlt⟩

theorem append_lt_append_left_iff : p ++ a < p ++ b ↔ a < b := by
  induction p with
  | nil => rfl
  | cons x p ih => simp [ih]

theorem octet_lt_octet {m n : Nat} (hm : m < 256) (hn : n < 256) :
    UInt8.ofNat m < UInt8.ofNat n ↔ m < n := by
  rw [UInt8.lt_iff_toNat_lt, toNat_octet hm, toNat_octet hn]

theorem octet_eq_octet {m n : Nat} (hm : m < 256) (hn : n < 256) :
    UInt8.ofNat m = UInt8.ofNat n ↔ m = n := by
  rw [← UInt8.toNat_inj, toNat_octet hm, toNat_octet hn]

theorem octet_cons_lt {m n : Nat} (hn : n < 256) (h : m < n) :
    UInt8.ofNat m :: p < UInt8.ofNat n :: q :=
  List.cons_lt_cons_iff.2 (Or.inl ((octet_lt_octet (Nat.lt_trans h hn) hn).2 h))

/-! ## Characters -/

/-- Numbers of four digits are compared digit by digit, from the front. -/
theorem digits_lt {a b c d a' b' c' d' : Nat} (hb : b < 64) (hc : c < 64) (hd : d < 64)
    (hb' : b' < 64) (hc' : c' < 64) (hd' : d' < 64)
    (h : ((a * 64 + b) * 64 + c) * 64 + d < ((a' * 64 + b') * 64 + c') * 64 + d') :
    a < a' ∨ a = a' ∧ (b < b' ∨ b = b' ∧ (c < c' ∨ c = c' ∧ d < d')) := by
  omega

theorem digits_eq {v : Nat} (h : v < 0x200000) :
    ((v / 262144 % 8 * 64 + v / 4096 % 64) * 64 + v / 64 % 64) * 64 + v % 64 = v := by
  omega

/-- The octets of a smaller character come first, whatever follows. -/
theorem utf8EncodeChar_append_lt (h : c < c') (a b : Bytes) :
    String.utf8EncodeChar c ++ a < String.utf8EncodeChar c' ++ b := by
  have hlt : c.val.toNat < c'.val.toNat := h
  have hvalid : c'.val.toNat < 0xD800 ∨ 0xDFFF < c'.val.toNat ∧ c'.val.toNat < 0x110000 := c'.valid
  rw [String.utf8EncodeChar, String.utf8EncodeChar]
  generalize c.val.toNat = v at hlt
  generalize c'.val.toNat = v' at hlt hvalid
  have hdigits := digits_lt (a := v / 262144 % 8) (b := v / 4096 % 64) (c := v / 64 % 64)
    (d := v % 64) (by omega) (by omega) (by omega) (by omega) (by omega) (by omega)
    (((digits_eq (by omega)).trans_lt hlt).trans_eq (digits_eq (v := v') (by omega)).symm)
  -- a longer character begins with the greater octet; octets of one number are digits
  split_ifs
  all_goals first
    | omega
    | exact octet_cons_lt (by omega) (by omega)
    | (refine append_lt_append (by simp only [List.length_cons]) ?_ a b
       simp (disch := omega) only [List.cons_lt_cons_iff, octet_lt_octet, octet_eq_octet,
         List.lt_irrefl]
       omega)

theorem flatMap_lt_flatMap_iff :
    s.flatMap String.utf8EncodeChar < t.flatMap String.utf8EncodeChar ↔ s < t := by
  have hcons (c : Char) (s : List Char) :
      ∃ b r, (c :: s).flatMap String.utf8EncodeChar = b :: r :=
    List.exists_cons_of_ne_nil (by simp [String.utf8EncodeChar_ne_nil])
  induction s generalizing t with
  | nil =>
    cases t with
    | nil => simp
    | cons c t =>
      obtain ⟨b, r, hbr⟩ := hcons c t
      simp [hbr]
  | cons c s ih =>
    cases t with
    | nil => simp
    | cons c' t =>
      rw [List.flatMap_cons, List.flatMap_cons, List.cons_lt_cons_iff]
      rcases Nat.lt_trichotomy c.toNat c'.toNat with hlt | heq | hgt
      · exact iff_of_true (utf8EncodeChar_append_lt hlt _ _) (Or.inl hlt)
      · obtain rfl := Char.toNat_inj.1 heq
        simp [append_lt_append_left_iff, ih]
      · refine iff_of_false (List.lt_asymm (utf8EncodeChar_append_lt hgt _ _)) ?_
        rintro (hlt | ⟨rfl, -⟩)
        · exact Nat.lt_asymm hgt hlt
        · exact Nat.lt_irrefl _ hgt

/-- The order of octets is that of texts. -/
theorem octetsLe_encode_iff {s t : String} :
    Component.octetsLe (encode s) (encode t) = true ↔ s ≤ t := by
  rw [octetsLe_iff, encode_eq_flatMap, encode_eq_flatMap, flatMap_lt_flatMap_iff,
    ← String.lt_iff_toList_lt, not_lt]

end HamlServer.Utf8
