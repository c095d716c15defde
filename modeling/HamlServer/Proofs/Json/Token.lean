import HamlServer.Proofs.Json.Lexeme

/-!
# Strings and numerals of JSON

What spells a string and a numeral, said without any reading.  A string ends at its quote, so the
reader takes the same part of a text whatever follows.  A numeral ends where it cannot go on, so
what follows it has to stop it.

* `PiecesText.stringBody_append`, `exists_of_stringBody`: the strings that are read.
* `NumeralText.numeral_append`, `exists_of_numeral`: the numerals that are read.
-/

namespace HamlServer.Json

variable {p : Piece} {ps : List Piece} {n : Numeral} {s t rest : List Char}

/-! ## Strings -/

/-- The characters that spell a piece of a string. -/
inductive PieceText : Piece → List Char → Prop where
  | plain {c : Char} (quote : c ≠ '"') (backslash : c ≠ '\\') (control : 0x20 ≤ c.toNat) :
      PieceText (.char c) [c]
  | letter {c l : Char} (escape : escape? l = some c) : PieceText (.char c) ['\\', l]
  | unit {a b c d : Char} {n : Nat} (digits : hexUnit? a b c d = some n) :
      PieceText (.unit n) ['\\', 'u', a, b, c, d]

/-- The characters between the quotes of a string. -/
inductive PiecesText : List Piece → List Char → Prop where
  | nil : PiecesText [] []
  | cons {p : Piece} {ps : List Piece} {t s : List Char} (first : PieceText p t)
      (more : PiecesText ps s) : PiecesText (p :: ps) (t ++ s)

/-- One piece is read. -/
theorem PieceText.stringBody_append (h : PieceText p t) (s : List Char) :
    stringBody (t ++ s) = (stringBody s).map fun q => (p :: q.1, q.2) := by
  cases h with
  | plain quote backslash control =>
    exact stringBody_plain quote backslash (Nat.not_lt.2 control) s
  | letter escape =>
    refine stringBody_letter ?_ escape s
    rintro rfl
    cases escape
  | unit digits =>
    rw [List.cons_append, List.cons_append, List.cons_append, List.cons_append, List.cons_append,
      List.cons_append, List.nil_append, stringBody, digits]
    cases stringBody s <;> rfl

/-- All pieces are read, up to the closing quote. -/
theorem PiecesText.stringBody_append (h : PiecesText ps t) (rest : List Char) :
    stringBody (t ++ '"' :: rest) = some (ps, rest) := by
  induction h with
  | nil => rfl
  | cons first _ ih => rw [List.append_assoc, first.stringBody_append, ih, Option.map_some]

/-- What is read of a string spells it. -/
theorem exists_of_stringBody (h : stringBody s = some (ps, rest)) :
    ∃ t, PiecesText ps t ∧ s = t ++ '"' :: rest := by
  fun_induction stringBody s generalizing ps with
  | case1 => cases h
  | case2 r =>
    obtain ⟨rfl, rfl⟩ := Prod.mk.inj (Option.some.inj h)
    exact ⟨[], .nil, rfl⟩
  | case3 a b c d r ih =>
    obtain ⟨n, hn, h⟩ := Option.bind_eq_some_iff.1 h
    obtain ⟨⟨ps', rest'⟩, hr, h⟩ := Option.bind_eq_some_iff.1 h
    obtain ⟨rfl, rfl⟩ := Prod.mk.inj (Option.some.inj h)
    obtain ⟨t, ht, rfl⟩ := ih hr
    exact ⟨_, .cons (.unit hn) ht, rfl⟩
  | case4 l r _ ih =>
    obtain ⟨c, hc, h⟩ := Option.bind_eq_some_iff.1 h
    obtain ⟨⟨ps', rest'⟩, hr, h⟩ := Option.bind_eq_some_iff.1 h
    obtain ⟨rfl, rfl⟩ := Prod.mk.inj (Option.some.inj h)
    obtain ⟨t, ht, rfl⟩ := ih hr
    exact ⟨_, .cons (.letter hc) ht, rfl⟩
  | case5 => cases h
  | case6 c r hquote _ _ hplain ih =>
    obtain ⟨⟨ps', rest'⟩, hr, h⟩ := Option.map_eq_some_iff.1 h
    obtain ⟨rfl, rfl⟩ := Prod.mk.inj h
    obtain ⟨hcontrol, hbackslash⟩ := not_or.1 hplain
    obtain ⟨t, ht, rfl⟩ := ih hr
    exact ⟨_, .cons (.plain hquote hbackslash (Nat.not_lt.1 hcontrol)) ht, rfl⟩

/-! ## Numerals -/

/-- A run of digits with the given values. -/
structure DigitsText (ds : List Nat) (s : List Char) : Prop where
  ne_nil : s ≠ []
  digit : ∀ c ∈ s, c.isDigit = true
  values : ds = s.map Text.digitValue

/-- The part of a numeral behind the point. -/
inductive FractionText : Option (List Nat) → List Char → Prop where
  | absent : FractionText none []
  | point {ds : List Nat} {s : List Char} (digits : DigitsText ds s) :
      FractionText (some ds) ('.' :: s)

/-- The sign of an exponent. -/
inductive ExponentSign : Bool → List Char → Prop where
  | unsigned : ExponentSign false []
  | plus : ExponentSign false ['+']
  | minus : ExponentSign true ['-']

/-- The exponent of a numeral. -/
inductive ExponentText : Option (Bool × List Nat) → List Char → Prop where
  | absent : ExponentText none []
  | letter {c : Char} {negative : Bool} {ds : List Nat} {sign s : List Char}
      (letter : c = 'e' ∨ c = 'E') (signed : ExponentSign negative sign)
      (digits : DigitsText ds s) : ExponentText (some (negative, ds)) (c :: (sign ++ s))

/-- The characters that spell a numeral: a zero in front stands alone. -/
inductive NumeralText : Numeral → List Char → Prop where
  | mk {negative : Bool} {ds : List Nat} {fraction : Option (List Nat)}
      {exponent : Option (Bool × List Nat)} {whole f e : List Char} (digits : DigitsText ds whole)
      (zero : whole.head? = some '0' → whole.length = 1) (behind : FractionText fraction f)
      (scale : ExponentText exponent e) :
      NumeralText ⟨negative, ds, fraction, exponent⟩
        ((if negative then ['-'] else []) ++ (whole ++ (f ++ e)))

/-- What follows digits is no digit. -/
def StopsDigits (rest : List Char) : Prop := ∀ c ∈ rest.head?, c.isDigit = false

theorem DigitsText.digitRun_append {ds : List Nat} (h : DigitsText ds s)
    (hrest : StopsDigits rest) : digitRun (s ++ rest) = (ds, rest) := by
  rw [h.values]
  exact Json.digitRun_append h.digit hrest

theorem exists_of_digitRun {ds : List Nat} (h : digitRun s = (ds, rest)) (hne : ds ≠ []) :
    ∃ t, DigitsText ds t ∧ s = t ++ rest := by
  obtain ⟨hds, hrest⟩ := Prod.mk.inj h
  refine ⟨s.takeWhile Char.isDigit, ⟨?_, ?_, hds.symm⟩, ?_⟩
  · intro hnil
    rw [hnil] at hds
    exact hne hds.symm
  · exact fun c hc => List.all_eq_true.1 List.all_takeWhile c hc
  · rw [← hrest, List.takeWhile_append_dropWhile]

theorem DigitsText.values_ne_nil {ds : List Nat} (h : DigitsText ds s) : ds ≠ [] := by
  rw [h.values]
  exact fun hnil => h.ne_nil (List.map_eq_nil_iff.1 hnil)

theorem FractionText.fractionPart_append {fraction : Option (List Nat)}
    (h : FractionText fraction s) (hdigit : StopsDigits rest) (hpoint : rest.head? ≠ some '.') :
    fractionPart (s ++ rest) = some (fraction, rest) := by
  cases h with
  | absent =>
    rw [List.nil_append, fractionPart]
    rintro r rfl
    exact hpoint rfl
  | point digits =>
    rw [List.cons_append, fractionPart, digits.digitRun_append hdigit]
    exact if_neg digits.values_ne_nil

theorem exists_of_fractionPart {fraction : Option (List Nat)}
    (h : fractionPart s = some (fraction, rest)) :
    ∃ t, FractionText fraction t ∧ s = t ++ rest := by
  rw [fractionPart.eq_def] at h
  split at h
  · next r =>
    rcases hrun : digitRun r with ⟨ds, r'⟩
    simp only [hrun] at h
    split at h
    · cases h
    · next hne =>
      obtain ⟨rfl, rfl⟩ := Prod.mk.inj (Option.some.inj h)
      obtain ⟨t, ht, rfl⟩ := exists_of_digitRun hrun hne
      exact ⟨'.' :: t, .point ht, rfl⟩
  · obtain ⟨rfl, rfl⟩ := Prod.mk.inj (Option.some.inj h)
    exact ⟨[], .absent, rfl⟩

/-- A sign is read, in front of what begins with no sign. -/
theorem ExponentSign.exponentSign_append {negative : Bool} (h : ExponentSign negative s)
    (hplus : rest.head? ≠ some '+') (hminus : rest.head? ≠ some '-') :
    exponentSign (s ++ rest) = (negative, rest) := by
  cases h with
  | unsigned =>
    rw [List.nil_append, exponentSign]
    · rintro r rfl
      exact hplus rfl
    · rintro r rfl
      exact hminus rfl
  | plus => rfl
  | minus => rfl

theorem exists_of_exponentSign (s : List Char) :
    ∃ sign, ExponentSign (exponentSign s).1 sign ∧ s = sign ++ (exponentSign s).2 := by
  rw [exponentSign.eq_def]
  split
  · exact ⟨['+'], .plus, rfl⟩
  · exact ⟨['-'], .minus, rfl⟩
  · exact ⟨[], .unsigned, rfl⟩

/-- Digits begin with a digit. -/
theorem DigitsText.head?_append_ne {ds : List Nat} (h : DigitsText ds s) (rest : List Char)
    {c : Char} (hc : c.isDigit = false) : (s ++ rest).head? ≠ some c := by
  obtain ⟨d, r, rfl⟩ := List.exists_cons_of_ne_nil h.ne_nil
  intro hhead
  have hd : d.isDigit = true := h.digit d List.mem_cons_self
  rw [Option.some.inj hhead, hc] at hd
  cases hd

theorem ExponentText.exponentPart_append {exponent : Option (Bool × List Nat)}
    (h : ExponentText exponent s) (hrest : Stops rest) :
    exponentPart (s ++ rest) = some (exponent, rest) := by
  cases h with
  | absent => exact exponentPart_of_stops hrest
  | letter letter signed digits =>
    have hdigits := digits.digitRun_append fun c hc => (hrest c hc).1
    have hsign := signed.exponentSign_append (digits.head?_append_ne rest (by decide))
      (digits.head?_append_ne rest (by decide))
    rw [List.cons_append, List.append_assoc, exponentPart, if_pos letter]
    simp only [hsign, hdigits]
    exact if_neg digits.values_ne_nil

theorem exists_of_exponentPart {exponent : Option (Bool × List Nat)}
    (h : exponentPart s = some (exponent, rest)) :
    ∃ t, ExponentText exponent t ∧ s = t ++ rest := by
  cases s with
  | nil =>
    obtain ⟨rfl, rfl⟩ := Prod.mk.inj (Option.some.inj h)
    exact ⟨[], .absent, rfl⟩
  | cons c r =>
    rw [exponentPart] at h
    split at h
    · next hletter =>
      obtain ⟨sign, hsign, hr⟩ := exists_of_exponentSign r
      rcases hrun : digitRun (exponentSign r).2 with ⟨ds, r'⟩
      simp only [hrun] at h
      split at h
      · cases h
      · next hne =>
        obtain ⟨rfl, rfl⟩ := Prod.mk.inj (Option.some.inj h)
        obtain ⟨t, ht, hrest⟩ := exists_of_digitRun hrun hne
        refine ⟨c :: (sign ++ t), .letter hletter hsign ht, ?_⟩
        rw [List.cons_append, List.append_assoc, ← hrest, ← hr]
    · obtain ⟨rfl, rfl⟩ := Prod.mk.inj (Option.some.inj h)
      exact ⟨[], .absent, rfl⟩

/-- What stands behind the digits of a numeral, in front of what ends it. -/
theorem stops_behind {fraction : Option (List Nat)} {exponent : Option (Bool × List Nat)}
    {f e : List Char} (hf : FractionText fraction f) (he : ExponentText exponent e)
    (hrest : Stops rest) :
    StopsDigits (f ++ (e ++ rest)) ∧ StopsDigits (e ++ rest) ∧ (e ++ rest).head? ≠ some '.' := by
  have hexponent : StopsDigits (e ++ rest) ∧ (e ++ rest).head? ≠ some '.' := by
    cases he with
    | absent => exact ⟨fun c hc => (hrest c hc).1, fun hc => (hrest '.' hc).2.1 rfl⟩
    | letter letter signed digits =>
      refine ⟨?_, ?_⟩
      · intro c hc
        obtain rfl := Option.some.inj hc
        rcases letter with rfl | rfl <;> rfl
      · intro hc
        have heq := Option.some.inj hc
        rcases letter with rfl | rfl <;> cases heq
  refine ⟨?_, hexponent⟩
  cases hf with
  | absent => exact hexponent.1
  | point digits =>
    intro c hc
    obtain rfl := Option.some.inj hc
    rfl

theorem DigitsText.head?_eq_zero_iff {ds : List Nat} (h : DigitsText ds s) :
    ds.head? = some 0 ↔ s.head? = some '0' := by
  obtain ⟨c, r, rfl⟩ := List.exists_cons_of_ne_nil h.ne_nil
  rw [h.values, List.map_cons, List.head?_cons, List.head?_cons, Option.some_inj, Option.some_inj]
  constructor
  · exact Text.eq_zero_of_digitValue (h.digit c List.mem_cons_self)
  · rintro rfl
    rfl

theorem DigitsText.length_values {ds : List Nat} (h : DigitsText ds s) : ds.length = s.length := by
  rw [h.values, List.length_map]

/-- A numeral behind its sign, and what follows. -/
def magnitude (negative : Bool) (s : List Char) : Option (Numeral × List Char) := do
  let (whole, s) := digitRun s
  if whole = [] ∨ (whole.head? = some 0 ∧ 1 < whole.length) then none
  let (fraction, s) ← fractionPart s
  let (exponent, s) ← exponentPart s
  return (⟨negative, whole, fraction, exponent⟩, s)

theorem numeral_minus (r : List Char) : numeral ('-' :: r) = magnitude true r := rfl

theorem numeral_unsigned (h : s.head? ≠ some '-') : numeral s = magnitude false s := by
  unfold numeral
  split
  next negative r hr =>
  split at hr
  · exact absurd rfl h
  · obtain ⟨rfl, rfl⟩ := Prod.mk.inj hr
    rfl

/-- The sign of a numeral and what stands behind it. -/
theorem numeral_append_of_isDigit (negative : Bool) (h : s.head? ≠ some '-') :
    numeral ((if negative then ['-'] else []) ++ s) = magnitude negative s := by
  cases negative with
  | true => exact numeral_minus s
  | false => exact numeral_unsigned h

/-- A numeral is read up to what ends it. -/
theorem NumeralText.numeral_append (h : NumeralText n t) (hrest : Stops rest) :
    numeral (t ++ rest) = some (n, rest) := by
  cases h with
  | @mk negative ds fraction exponent whole f e digits zero behind scale =>
    obtain ⟨hf, he, hpoint⟩ := stops_behind behind scale hrest
    have hwhole := digits.digitRun_append hf
    have hfraction := behind.fractionPart_append he hpoint
    have hexponent := scale.exponentPart_append hrest
    have hzero : ¬ (ds = [] ∨ (ds.head? = some 0 ∧ 1 < ds.length)) := by
      rintro (hnil | ⟨hhead, hlength⟩)
      · exact digits.values_ne_nil hnil
      · rw [digits.length_values, zero (digits.head?_eq_zero_iff.1 hhead)] at hlength
        exact absurd hlength (Nat.lt_irrefl 1)
    rw [List.append_assoc, List.append_assoc, List.append_assoc, numeral_append_of_isDigit negative
      (digits.head?_append_ne _ (by decide))]
    simp only [magnitude, hwhole, if_neg hzero, hfraction, hexponent, Option.bind_eq_bind,
      Option.bind_some, Option.pure_def]

theorem exists_of_magnitude {negative : Bool} (h : magnitude negative s = some (n, rest)) :
    ∃ t, NumeralText n ((if negative then ['-'] else []) ++ t) ∧ s = t ++ rest := by
  rcases hrun : digitRun s with ⟨ds, r⟩
  simp only [magnitude, hrun] at h
  split at h
  · cases h
  · next hzero =>
    obtain ⟨hne, hlength⟩ := not_or.1 hzero
    obtain ⟨whole, hwhole, rfl⟩ := exists_of_digitRun hrun hne
    obtain ⟨⟨fraction, r'⟩, hfraction, hbehind⟩ := Option.bind_eq_some_iff.1 h
    obtain ⟨f, hf, rfl⟩ := exists_of_fractionPart hfraction
    obtain ⟨⟨exponent, r''⟩, hexponent, hnumeral⟩ := Option.bind_eq_some_iff.1 hbehind
    obtain ⟨e, he, rfl⟩ := exists_of_exponentPart hexponent
    obtain ⟨rfl, rfl⟩ := Prod.mk.inj (Option.some.inj hnumeral)
    refine ⟨whole ++ (f ++ e), .mk hwhole ?_ hf he, by simp only [List.append_assoc]⟩
    intro hhead
    have hpos : 0 < whole.length := List.length_pos_iff.2 hwhole.ne_nil
    have hle : ¬ 1 < ds.length := fun hlt => hlength ⟨hwhole.head?_eq_zero_iff.2 hhead, hlt⟩
    rw [hwhole.length_values] at hle
    omega

/-- What is read of a numeral spells it. -/
theorem exists_of_numeral (h : numeral s = some (n, rest)) :
    ∃ t, NumeralText n t ∧ s = t ++ rest := by
  by_cases hminus : s.head? = some '-'
  · obtain ⟨r, rfl⟩ := List.head?_eq_some_iff.1 hminus
    rw [numeral_minus] at h
    obtain ⟨t, ht, rfl⟩ := exists_of_magnitude h
    exact ⟨_, ht, rfl⟩
  · rw [numeral_unsigned hminus] at h
    obtain ⟨t, ht, rfl⟩ := exists_of_magnitude h
    exact ⟨_, ht, rfl⟩

end HamlServer.Json
