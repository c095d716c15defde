import HamlServer.Text.Digits

/-!
# Decimal numerals

The numeral of a natural number is `Nat.toDigits 10`.  This module has the facts that its readers
need: all of it are digits, it starts with a zero only where it is one, and its digits spell the
number.
-/

namespace HamlServer.Text

/-- The value of a decimal digit. -/
def digitValue (c : Char) : Nat := c.toNat - 48

/-- Only one digit has the value zero. -/
theorem eq_zero_of_digitValue {c : Char} (hd : c.isDigit = true) (hv : digitValue c = 0) :
    c = '0' := by
  have h48 : 48 ≤ c.toNat := by
    simp only [Char.isDigit, ge_iff_le, Bool.and_eq_true, decide_eq_true_eq] at hd
    exact hd.1
  refine Char.toNat_inj.1 ?_
  rw [digitValue] at hv
  show c.toNat = 48
  omega

theorem isDigit_of_mem_toDigits {n : Nat} {c : Char} (h : c ∈ Nat.toDigits 10 n) :
    c.isDigit = true :=
  Nat.isDigit_of_mem_toDigits (by decide) (by decide) h

/-- A numeral has a first digit. -/
theorem toDigits_eq_cons (n : Nat) :
    ∃ c ds, Nat.toDigits 10 n = c :: ds ∧ c.isDigit = true := by
  cases h : Nat.toDigits 10 n with
  | nil => exact absurd h Nat.toDigits_ne_nil
  | cons c ds =>
    have hc : c ∈ Nat.toDigits 10 n := by rw [h]; exact List.mem_cons_self
    exact ⟨c, ds, rfl, isDigit_of_mem_toDigits hc⟩

/-- The digits of a numeral spell its number. -/
theorem ofDigits_toDigits (n : Nat) : ofDigits 10 ((Nat.toDigits 10 n).map digitValue) = n := by
  have h : Nat.ofDigitChars 10 (Nat.toDigits 10 n) 0 = n := Nat.ofDigitChars_ten_toDigits
  rw [Nat.ofDigitChars_eq_foldl] at h
  rw [ofDigits, List.foldl_map]
  exact h

/-- Only the numeral of zero starts with a zero. -/
theorem head?_toDigits_ne_zero {n : Nat} (hn : n ≠ 0) : (Nat.toDigits 10 n).head? ≠ some '0' := by
  induction n using Nat.strongRecOn with
  | ind n ih =>
    rw [Nat.toDigits_eq_if (by decide)]
    split
    · next hlt =>
      rw [List.head?_cons, ne_eq, Option.some.injEq, Nat.digitChar_eq_zero]
      exact hn
    · next hge =>
      have hfront := ih (n / 10) (by omega) (by omega)
      obtain ⟨c, r, hc, _⟩ := toDigits_eq_cons (n / 10)
      rw [hc] at hfront ⊢
      exact hfront

/-- A numeral that starts with a zero has no further digit. -/
theorem length_toDigits_of_head? {n : Nat} (h : (Nat.toDigits 10 n).head? = some '0') :
    (Nat.toDigits 10 n).length = 1 := by
  by_cases hn : n = 0
  · rw [hn, Nat.toDigits_zero]
    rfl
  · exact absurd h (head?_toDigits_ne_zero hn)

theorem digitIn?_of_isDigit {c : Char} (h : c.isDigit = true) :
    digitIn? 10 c = some (digitValue c) := by
  have hc : '0' ≤ c ∧ c ≤ '9' := by
    simpa [Char.isDigit, Char.le_def] using h
  have hv : c.toNat ≤ 57 := hc.2
  have hlt : c.toNat - 48 < 10 := by omega
  rw [digitIn?, hexDigit?, if_pos hc, Option.filter_some, if_pos (by simpa using hlt)]
  rfl

/-- A text of digits spells a number. -/
theorem natural?_of_isDigit {s : List Char} (hne : s ≠ []) (h : ∀ c ∈ s, c.isDigit = true) :
    natural? 10 s = some (ofDigits 10 (s.map digitValue)) := by
  have hm : s.mapM (digitIn? 10) = some (s.map digitValue) := by
    clear hne
    induction s with
    | nil => rfl
    | cons c s ih =>
      rw [List.mapM_cons, digitIn?_of_isDigit (h c List.mem_cons_self),
        ih fun x hx => h x (List.mem_cons_of_mem _ hx)]
      rfl
  rw [natural?, if_neg hne, hm, Option.map_some]

theorem isDigit_of_digitIn? {c : Char} {d : Nat} (h : digitIn? 10 c = some d) :
    c.isDigit = true := by
  rw [digitIn?, Option.filter_eq_some_iff, decide_eq_true_eq] at h
  obtain ⟨hhex, hlt⟩ := h
  rw [hexDigit?] at hhex
  split at hhex
  · next hc => simpa [Char.isDigit, Char.le_def] using hc
  · -- a letter stands for ten or more
    split at hhex
    · next hc =>
      obtain rfl := Option.some.inj hhex
      have hlo : 97 ≤ c.toNat := hc.1
      omega
    · split at hhex
      · next hc =>
        obtain rfl := Option.some.inj hhex
        have hlo : 65 ≤ c.toNat := hc.1
        omega
      · cases hhex

/-- The texts that spell a number: digits, and nothing else. -/
theorem natural?_eq_some_iff {s : List Char} {n : Nat} :
    natural? 10 s = some n ↔
      s ≠ [] ∧ (∀ c ∈ s, c.isDigit = true) ∧ ofDigits 10 (s.map digitValue) = n := by
  constructor
  · intro h
    have hne : s ≠ [] := by
      rintro rfl
      cases h
    have hdigit : ∀ c ∈ s, c.isDigit = true := by
      rw [natural?, if_neg hne, Option.map_eq_some_iff] at h
      obtain ⟨ds, hds, -⟩ := h
      clear hne
      induction s generalizing ds with
      | nil => exact fun c hc => by cases hc
      | cons c s ih =>
        rw [List.mapM_cons] at hds
        obtain ⟨d, hd, hrest⟩ := Option.bind_eq_some_iff.1 hds
        obtain ⟨ds', hds', -⟩ := Option.bind_eq_some_iff.1 hrest
        exact List.forall_mem_cons.2 ⟨isDigit_of_digitIn? hd, ih ds' hds'⟩
    rw [natural?_of_isDigit hne hdigit, Option.some_inj] at h
    exact ⟨hne, hdigit, h⟩
  · rintro ⟨hne, hdigit, rfl⟩
    exact natural?_of_isDigit hne hdigit

/-- The texts that spell a word: digits, perhaps behind one plus sign, of a number that fits. -/
theorem word?_eq_some_iff {s : List Char} {n : Nat} :
    word? s = some n ↔ ∃ plus ds, s = plus ++ ds ∧ (plus = [] ∨ plus = ['+']) ∧ ds ≠ [] ∧
      (∀ c ∈ ds, c.isDigit = true) ∧ ofDigits 10 (ds.map digitValue) = n ∧ n < twoPow 64 := by
  have hfits (ds : List Char) : (natural? 10 ds).filter (· < twoPow 64) = some n ↔ ds ≠ [] ∧
      (∀ c ∈ ds, c.isDigit = true) ∧ ofDigits 10 (ds.map digitValue) = n ∧ n < twoPow 64 := by
    rw [Option.filter_eq_some_iff, natural?_eq_some_iff, decide_eq_true_eq, and_assoc, and_assoc]
  unfold word?
  split
  · next r =>
    rw [hfits]
    constructor
    · exact fun h => ⟨['+'], r, rfl, Or.inr rfl, h⟩
    · rintro ⟨plus, ds, heq, rfl | rfl, h⟩
      · -- a plus sign is no digit
        have hplus := h.2.1 '+' (by rw [← List.nil_append ds, ← heq]; exact List.mem_cons_self)
        exact absurd hplus (by decide)
      · obtain rfl := List.tail_eq_of_cons_eq heq
        exact h
  · next hno =>
    rw [hfits]
    constructor
    · exact fun h => ⟨[], s, rfl, Or.inl rfl, h⟩
    · rintro ⟨plus, ds, rfl, rfl | rfl, h⟩
      · exact h
      · exact absurd rfl (hno ds)

/-- A numeral is read back as its number, if that fits a word. -/
theorem word?_toDigits {n : Nat} (h : n < twoPow 64) : word? (Nat.toDigits 10 n) = some n :=
  word?_eq_some_iff.2 ⟨[], Nat.toDigits 10 n, rfl, Or.inl rfl, Nat.toDigits_ne_nil,
    fun _ => isDigit_of_mem_toDigits, ofDigits_toDigits n, h⟩

end HamlServer.Text
