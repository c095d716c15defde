import HamlServer.Json.Printer
import HamlServer.Json.Written
import HamlServer.Proofs.Text.Decimal

/-!
# Strings and integers of JSON are read back

The printer and the reader share no code.  For strings, `stringBody_escape` says that the reader
takes every escape as the piece that was printed, and `characters_pieces` that the pieces are the
string.  For integers, `numeral_toString` says that the reader takes all digits and stops at what
follows, and `value?_numeralOf` that the digits are the integer.
-/

namespace HamlServer.Json

/-! ## Strings -/

/-- A control without an escape of one letter, which is printed by its number. -/
def isPrintedByNumber (c : Char) : Bool :=
  c.toNat < 0x20 && c != '\x08' && c != '\x0C' && c != '\n' && c != '\r' && c != '\t'

/-- A character as it is read back from its printed form. -/
def piece (c : Char) : Piece := if isPrintedByNumber c then .unit c.toNat else .char c

theorem hexDigit?_hexChar {n : Nat} (h : n < 16) : Text.hexDigit? (Text.hexChar n) = some n := by
  have hall : ∀ m < 16, Text.hexDigit? (Text.hexChar m) = some m := by decide
  exact hall n h

theorem hexUnit?_controlEscape {n : Nat} (h : n < 0x20) :
    hexUnit? '0' '0' (Text.hexChar (n / 16)) (Text.hexChar (n % 16)) = some n := by
  have h1 := hexDigit?_hexChar (n := n / 16) (by omega)
  have h2 := hexDigit?_hexChar (n := n % 16) (by omega)
  have h0 : Text.hexDigit? '0' = some 0 := rfl
  have hn : Text.ofDigits 16 [0, 0, n / 16, n % 16] = n := by
    simp only [Text.ofDigits, List.foldl_cons, List.foldl_nil]
    omega
  simp only [hexUnit?, h0, h1, h2, Option.bind_eq_bind, Option.bind_some, Option.pure_def, hn]

/-- A character that is printed as it is. -/
theorem stringBody_plain {c : Char} (hq : c ≠ '"') (hb : c ≠ '\\') (hc : ¬ c.toNat < 0x20)
    (rest : List Char) :
    stringBody (c :: rest) = (stringBody rest).map fun p => (.char c :: p.1, p.2) := by
  have hn : ¬ (c.toNat < 0x20 ∨ c = '\\') := not_or.2 ⟨hc, hb⟩
  rw [stringBody, if_neg hn]
  · exact hq
  · exact fun _ _ _ _ _ h _ => hb h
  · exact fun _ _ h _ => hb h

/-- A character that is printed as one letter behind a backslash. -/
theorem stringBody_letter {c letter : Char} (hu : letter ≠ 'u') (he : escape? letter = some c)
    (rest : List Char) :
    stringBody ('\\' :: letter :: rest) = (stringBody rest).map fun p => (.char c :: p.1, p.2) := by
  rw [stringBody, he]
  · cases stringBody rest <;> rfl
  · exact fun _ _ _ _ _ h _ => hu h

/-- One character is read back as its piece. -/
theorem stringBody_escapeChar (c : Char) (rest : List Char) :
    stringBody (escapeChar c ++ rest) = (stringBody rest).map fun p => (piece c :: p.1, p.2) := by
  have letter (c l : Char) (hu : l ≠ 'u') (he : escape? l = some c) (hp : piece c = .char c)
      (hc : escapeChar c = ['\\', l]) : stringBody (escapeChar c ++ rest) =
        (stringBody rest).map fun p => (piece c :: p.1, p.2) := by
    rw [hc, hp]
    exact stringBody_letter hu he rest
  by_cases h1 : c = '"'
  · exact h1 ▸ letter '"' '"' (by decide) rfl rfl rfl
  by_cases h2 : c = '\\'
  · exact h2 ▸ letter '\\' '\\' (by decide) rfl rfl rfl
  by_cases h3 : c = '\x08'
  · exact h3 ▸ letter '\x08' 'b' (by decide) rfl rfl rfl
  by_cases h4 : c = '\x0C'
  · exact h4 ▸ letter '\x0C' 'f' (by decide) rfl rfl rfl
  by_cases h5 : c = '\n'
  · exact h5 ▸ letter '\n' 'n' (by decide) rfl rfl rfl
  by_cases h6 : c = '\r'
  · exact h6 ▸ letter '\r' 'r' (by decide) rfl rfl rfl
  by_cases h7 : c = '\t'
  · exact h7 ▸ letter '\t' 't' (by decide) rfl rfl rfl
  by_cases hc : c.toNat < 0x20
  · have he : escapeChar c = controlEscape c.toNat := by
      simp only [escapeChar, h1, h2, h3, h4, h5, h6, h7, hc, if_true, if_false]
    have hp : piece c = .unit c.toNat := by
      simp [piece, isPrintedByNumber, h3, h4, h5, h6, h7, hc]
    rw [he, hp, controlEscape]
    simp only [List.cons_append, List.nil_append]
    rw [stringBody, hexUnit?_controlEscape hc]
    cases stringBody rest <;> rfl
  · have he : escapeChar c = [c] := by
      simp only [escapeChar, h1, h2, h3, h4, h5, h6, h7, hc, if_false]
    have hp : piece c = .char c := by
      simp [piece, isPrintedByNumber, hc]
    rw [he, hp]
    exact stringBody_plain h1 h2 hc rest

/-- A printed string is read back up to its closing quote. -/
theorem stringBody_escape (s rest : List Char) :
    stringBody (s.flatMap escapeChar ++ '"' :: rest) = some (s.map piece, rest) := by
  induction s with
  | nil => rfl
  | cons c s ih =>
    rw [List.flatMap_cons, List.append_assoc, stringBody_escapeChar, ih]
    rfl

/-- A unit that is no surrogate stands for itself. -/
theorem characters_unit {n : Nat} (h : ¬ (0xD800 ≤ n ∧ n < 0xE000)) (ps : List Piece) :
    characters (.unit n :: ps) = (characters ps).map (Char.ofNat n :: ·) := by
  have h1 : ¬ (0xD800 ≤ n ∧ n < 0xDC00) := by omega
  have h2 : ¬ (0xDC00 ≤ n ∧ n < 0xE000) := by omega
  cases ps with
  | nil => simp only [characters, if_neg h]
  | cons p ps =>
    cases p with
    | char c => simp only [characters, if_neg h]
    | unit m => simp only [characters, if_neg h1, if_neg h2]

/-- The pieces of a string make it up again. -/
theorem characters_pieces (s : List Char) : characters (s.map piece) = some s := by
  induction s with
  | nil => rfl
  | cons c s ih =>
    rw [List.map_cons, piece]
    split
    · next h =>
      have hlt : c.toNat < 0x20 := by
        simp only [isPrintedByNumber, Bool.and_eq_true, decide_eq_true_eq] at h
        exact h.1.1.1.1.1
      rw [characters_unit (by omega), ih, Option.map_some, Char.ofNat_toNat]
    · rw [characters, ih, Option.map_some]

/-! ## Integers -/

/-- What follows a numeral: nothing that could be a part of it. -/
def Stops (rest : List Char) : Prop :=
  ∀ c ∈ rest.head?, c.isDigit = false ∧ c ≠ '.' ∧ c ≠ 'e' ∧ c ≠ 'E'

/-- The numeral of an integer. -/
def numeralOf (n : Int) : Numeral :=
  ⟨decide (n < 0), (Nat.toDigits 10 n.natAbs).map Text.digitValue, none, none⟩

theorem toList_toString (n : Int) :
    (toString n).toList = (if n < 0 then ['-'] else []) ++ Nat.toDigits 10 n.natAbs := by
  rw [Int.toString_eq_repr, Int.repr_eq_if]
  split
  · next h =>
    have ha : n.natAbs = n.toNat := by omega
    rw [if_neg (by omega), ha, List.nil_append, Nat.toList_repr]
  · next h =>
    have ha : n.natAbs = (-n).toNat := by omega
    rw [if_pos (by omega), ha, String.toList_append, Nat.toList_repr]
    rfl

theorem digitRun_append {ds rest : List Char} (hd : ∀ c ∈ ds, c.isDigit = true)
    (hr : ∀ c ∈ rest.head?, c.isDigit = false) :
    digitRun (ds ++ rest) = (ds.map Text.digitValue, rest) := by
  have hstop : rest.takeWhile Char.isDigit = [] ∧ rest.dropWhile Char.isDigit = rest := by
    cases rest with
    | nil => exact ⟨rfl, rfl⟩
    | cons c r =>
      have hc := hr c rfl
      exact ⟨List.takeWhile_cons_of_neg (by simp [hc]), List.dropWhile_cons_of_neg (by simp [hc])⟩
  rw [digitRun, List.takeWhile_append_of_pos hd, List.dropWhile_append_of_pos hd, hstop.1, hstop.2,
    List.append_nil]
  rfl

theorem fractionPart_of_stops {rest : List Char} (h : Stops rest) :
    fractionPart rest = some (none, rest) := by
  cases rest with
  | nil => rfl
  | cons c r =>
    rw [fractionPart]
    exact fun _ hc => (h c rfl).2.1 (List.head_eq_of_cons_eq hc)

theorem exponentPart_of_stops {rest : List Char} (h : Stops rest) :
    exponentPart rest = some (none, rest) := by
  cases rest with
  | nil => rfl
  | cons c r =>
    have hc : ¬ (c = 'e' ∨ c = 'E') := not_or.2 (h c rfl).2.2
    rw [exponentPart, if_neg hc]

/-- A zero in front of a printed number stands alone. -/
theorem no_leading_zero (n : Nat) : ¬ ((Nat.toDigits 10 n).map Text.digitValue = [] ∨
    (((Nat.toDigits 10 n).map Text.digitValue).head? = some 0 ∧
      1 < ((Nat.toDigits 10 n).map Text.digitValue).length)) := by
  rintro (hnil | ⟨hzero, hlen⟩)
  · exact Nat.toDigits_ne_nil (List.map_eq_nil_iff.1 hnil)
  · rw [List.head?_map, Option.map_eq_some_iff] at hzero
    obtain ⟨c, hc, hv⟩ := hzero
    have hd : c.isDigit = true := Text.isDigit_of_mem_toDigits (List.mem_of_mem_head? hc)
    have h0 : c = '0' := Text.eq_zero_of_digitValue hd hv
    rw [h0] at hc
    rw [List.length_map, Text.length_toDigits_of_head? hc] at hlen
    omega

/-- A printed integer is read back up to what follows it. -/
theorem numeral_toString (n : Int) {rest : List Char} (h : Stops rest) :
    numeral ((toString n).toList ++ rest) = some (numeralOf n, rest) := by
  have hdigit : ∀ c ∈ Nat.toDigits 10 n.natAbs, c.isDigit = true :=
    fun c => Text.isDigit_of_mem_toDigits
  have hrun := digitRun_append hdigit fun c hc => (h c hc).1
  have hzero := no_leading_zero n.natAbs
  rw [toList_toString]
  by_cases hn : n < 0
  · rw [if_pos hn, List.append_assoc, List.singleton_append]
    simp only [numeral, hrun, if_neg hzero, fractionPart_of_stops h, exponentPart_of_stops h,
      numeralOf, hn, decide_true, Option.bind_eq_bind, Option.bind_some, Option.pure_def]
  · rw [if_neg hn, List.nil_append]
    unfold numeral
    split
    next negative s hs =>
    split at hs
    · next r hr =>
      -- a minus sign is no digit
      obtain ⟨c, ds, hds, hc⟩ := Text.toDigits_eq_cons n.natAbs
      rw [hds, List.cons_append] at hr
      rw [List.head_eq_of_cons_eq hr] at hc
      exact absurd hc (by decide)
    · obtain ⟨rfl, rfl⟩ := Prod.mk.inj hs
      simp only [hrun, if_neg hzero, fractionPart_of_stops h, exponentPart_of_stops h,
        numeralOf, hn, decide_false, Option.bind_eq_bind, Option.bind_some, Option.pure_def]

/-- The numeral of an integer that fits a word is that integer. -/
theorem value?_numeralOf {n : Int} (hlo : minInt ≤ n) (hhi : n ≤ maxWord) :
    (numeralOf n).value? = some (.int n) := by
  have hm : Text.ofDigits 10 (numeralOf n).whole = n.natAbs := Text.ofDigits_toDigits n.natAbs
  have hv : (if (numeralOf n).negative then -(n.natAbs : Int) else n.natAbs) = n := by
    show (if decide (n < 0) = true then _ else _) = n
    by_cases hn : n < 0
    · rw [if_pos (by simpa using hn)]
      omega
    · rw [if_neg (by simpa using hn)]
      omega
  have hz : ((numeralOf n).negative && n.natAbs == 0) = false := by
    rw [Bool.and_eq_false_iff]
    by_cases hn : n < 0
    · exact Or.inr (by simp; omega)
    · exact Or.inl (by simpa [numeralOf] using hn)
  have hf : (numeralOf n).fraction = none := rfl
  have he : (numeralOf n).exponent = none := rfl
  simp only [Numeral.value?, hm, hv, hz, hf, he, Option.isNone_none, hlo, hhi, decide_true,
    Bool.and_self, Bool.not_false, if_true]

end HamlServer.Json
