import HamlServer.Proofs.Json.RoundTrip
import HamlServer.Proofs.Json.Token

/-!
# The grammar of JSON

What a JSON text is, said without any reading: a relation between written texts and the characters
that spell them.  The reader decides it: what it reads spells what it makes of it (`Sound`), and it
reads all that spells something (`Complete`).  Both are shown for every amount of fuel from what they
say of one less, and the length of a text bounds the fuel that it needs.

* `sound`, `complete`: what is read with some fuel.
* `parse_eq_some_iff`: the texts that are read, and what is read of them.
-/

namespace HamlServer.Json

variable {ps : List Piece} {n : Numeral} {w : Written} {vs : List Written}
  {ms : List (List Piece × Written)} {s t r rest gap : List Char}

/-! ## Values -/

/-- Space between the parts of a text. -/
def Gap (s : List Char) : Prop := ∀ c ∈ s, isSpace c = true

mutual

/-- The characters that spell a value, with no space around it. -/
inductive ValueText : Written → List Char → Prop where
  | null : ValueText .null "null".toList
  | bool (b : Bool) : ValueText (.bool b) (if b then "true".toList else "false".toList)
  | number {n : Numeral} {s : List Char} (numeral : NumeralText n s) : ValueText (.number n) s
  | string {ps : List Piece} {s : List Char} (pieces : PiecesText ps s) :
      ValueText (.string ps) ('"' :: (s ++ ['"']))
  | emptyArray {gap : List Char} (space : Gap gap) : ValueText (.array []) ('[' :: (gap ++ [']']))
  | array {vs : List Written} {s : List Char} (items : ItemsText vs s) :
      ValueText (.array vs) ('[' :: (s ++ [']']))
  | emptyObject {gap : List Char} (space : Gap gap) :
      ValueText (.object []) ('\x7b' :: (gap ++ ['\x7d']))
  | object {ms : List (List Piece × Written)} {s : List Char} (members : MembersText ms s) :
      ValueText (.object ms) ('\x7b' :: (s ++ ['\x7d']))

/-- The characters that spell a value, with space around it. -/
inductive SpacedText : Written → List Char → Prop where
  | mk {v : Written} {before s after : List Char} (space : Gap before) (value : ValueText v s)
      (space' : Gap after) : SpacedText v (before ++ (s ++ after))

/-- The characters between the brackets of an array that has items. -/
inductive ItemsText : List Written → List Char → Prop where
  | last {v : Written} {s : List Char} (item : SpacedText v s) : ItemsText [v] s
  | more {v : Written} {vs : List Written} {s t : List Char} (item : SpacedText v s)
      (items : ItemsText vs t) : ItemsText (v :: vs) (s ++ ',' :: t)

/-- The characters that spell a member of an object. -/
inductive MemberText : List Piece × Written → List Char → Prop where
  | mk {ps : List Piece} {v : Written} {before name after s : List Char} (space : Gap before)
      (pieces : PiecesText ps name) (space' : Gap after) (value : SpacedText v s) :
      MemberText (ps, v) (before ++ '"' :: (name ++ '"' :: (after ++ ':' :: s)))

/-- The characters between the braces of an object that has members. -/
inductive MembersText : List (List Piece × Written) → List Char → Prop where
  | last {m : List Piece × Written} {s : List Char} (member : MemberText m s) : MembersText [m] s
  | more {m : List Piece × Written} {ms : List (List Piece × Written)} {s t : List Char}
      (member : MemberText m s) (members : MembersText ms t) : MembersText (m :: ms) (s ++ ',' :: t)

end

/-! ## Space -/

theorem exists_gap (s : List Char) : ∃ gap, Gap gap ∧ s = gap ++ skipSpace s :=
  ⟨s.takeWhile isSpace, fun c hc => List.all_eq_true.1 List.all_takeWhile c hc,
    List.takeWhile_append_dropWhile.symm⟩

theorem Gap.skipSpace_append (h : Gap gap) (s : List Char) : skipSpace (gap ++ s) = skipSpace s :=
  List.dropWhile_append_of_pos h

theorem Gap.skipSpace_eq_nil (h : Gap gap) : skipSpace gap = [] := by
  rw [← List.append_nil gap, h.skipSpace_append]
  rfl

/-- Space in front of a value does not count. -/
theorem Gap.value_append (h : Gap gap) (fuel : Nat) (s : List Char) :
    Written.value fuel (gap ++ s) = Written.value fuel s := by
  cases fuel with
  | zero => rw [Written.value, Written.value]
  | succ fuel => rw [Written.value, Written.value, h.skipSpace_append]

/-- Space ends a numeral. -/
theorem Gap.stops_append (h : Gap gap) (hrest : Stops rest) : Stops (gap ++ rest) := by
  cases gap with
  | nil => exact hrest
  | cons c gap =>
    intro x hx
    obtain rfl : c = x := Option.some.inj hx
    have hspace := h c List.mem_cons_self
    simp only [isSpace, Bool.or_eq_true, beq_iff_eq] at hspace
    rcases hspace with ((rfl | rfl) | rfl) | rfl <;> decide

theorem Gap.append {gap' : List Char} (h : Gap gap) (h' : Gap gap') : Gap (gap ++ gap') :=
  List.forall_mem_append.2 ⟨h, h'⟩

theorem SpacedText.gap_append (h : SpacedText w s) (hgap : Gap gap) : SpacedText w (gap ++ s) := by
  cases h with
  | mk space value space' =>
    rw [← List.append_assoc]
    exact .mk (hgap.append space) value space'

theorem ItemsText.gap_append (h : ItemsText vs s) (hgap : Gap gap) : ItemsText vs (gap ++ s) := by
  cases h with
  | last item => exact .last (item.gap_append hgap)
  | more item items =>
    rw [← List.append_assoc]
    exact .more (item.gap_append hgap) items

theorem MemberText.gap_append {m : List Piece × Written} (h : MemberText m s) (hgap : Gap gap) :
    MemberText m (gap ++ s) := by
  cases h with
  | mk space pieces space' value =>
    rw [← List.append_assoc]
    exact .mk (hgap.append space) pieces space' value

theorem MembersText.gap_append (h : MembersText ms s) (hgap : Gap gap) :
    MembersText ms (gap ++ s) := by
  cases h with
  | last member => exact .last (member.gap_append hgap)
  | more member members =>
    rw [← List.append_assoc]
    exact .more (member.gap_append hgap) members

/-! ## What is read spells it -/

/-- What is read with so much fuel spells what is read of it. -/
structure Sound (fuel : Nat) : Prop where
  value : ∀ {s r w}, Written.value fuel s = some (w, r) →
    ∃ gap t, Gap gap ∧ ValueText w t ∧ s = gap ++ (t ++ r)
  items : ∀ {s r vs}, Written.items fuel s = some (vs, r) → ∃ t, ItemsText vs t ∧ s = t ++ ']' :: r
  members : ∀ {s r ms}, Written.members fuel s = some (ms, r) →
    ∃ t, MembersText ms t ∧ s = t ++ '\x7d' :: r

/-- A value with the space behind it. -/
theorem Sound.spaced {fuel : Nat} (h : Sound fuel) (hv : Written.value fuel s = some (w, r)) :
    ∃ t, SpacedText w t ∧ s = t ++ skipSpace r := by
  obtain ⟨before, t, hbefore, ht, rfl⟩ := h.value hv
  obtain ⟨after, hafter, hr⟩ := exists_gap r
  refine ⟨before ++ (t ++ after), .mk hbefore ht hafter, ?_⟩
  rw [List.append_assoc, List.append_assoc, ← hr]

theorem Sound.value_succ {fuel : Nat} (h : Sound fuel)
    (hv : Written.value (fuel + 1) s = some (w, r)) :
    ∃ gap t, Gap gap ∧ ValueText w t ∧ s = gap ++ (t ++ r) := by
  obtain ⟨gap, hgap, hs⟩ := exists_gap s
  suffices hvalue : ∃ t, ValueText w t ∧ skipSpace s = t ++ r by
    obtain ⟨t, ht, heq⟩ := hvalue
    exact ⟨gap, t, hgap, ht, by rw [← heq]; exact hs⟩
  rw [Written.value] at hv
  split at hv
  · next r' heq =>
    obtain ⟨rfl, rfl⟩ := Prod.mk.inj (Option.some.inj hv)
    exact ⟨_, .null, heq⟩
  · next r' heq =>
    obtain ⟨rfl, rfl⟩ := Prod.mk.inj (Option.some.inj hv)
    exact ⟨_, .bool true, heq⟩
  · next r' heq =>
    obtain ⟨rfl, rfl⟩ := Prod.mk.inj (Option.some.inj hv)
    exact ⟨_, .bool false, heq⟩
  · next r' heq =>
    obtain ⟨⟨ps, r''⟩, hstring, hpair⟩ := Option.map_eq_some_iff.1 hv
    obtain ⟨rfl, rfl⟩ := Prod.mk.inj hpair
    obtain ⟨t, ht, rfl⟩ := exists_of_stringBody hstring
    exact ⟨_, .string ht, by rw [heq]; simp⟩
  · next r' heq =>
    split at hv
    · next r'' hclose =>
      obtain ⟨rfl, rfl⟩ := Prod.mk.inj (Option.some.inj hv)
      obtain ⟨inner, hinner, hr⟩ := exists_gap r'
      exact ⟨_, .emptyArray hinner, by rw [heq, hr, hclose]; simp⟩
    · obtain ⟨⟨vs, r''⟩, hitems, hpair⟩ := Option.map_eq_some_iff.1 hv
      obtain ⟨rfl, rfl⟩ := Prod.mk.inj hpair
      obtain ⟨inner, hinner, hr⟩ := exists_gap r'
      obtain ⟨t, ht, hinside⟩ := h.items hitems
      exact ⟨_, .array (ht.gap_append hinner), by rw [heq, hr, hinside]; simp⟩
  · next r' heq =>
    split at hv
    · next r'' hclose =>
      obtain ⟨rfl, rfl⟩ := Prod.mk.inj (Option.some.inj hv)
      obtain ⟨inner, hinner, hr⟩ := exists_gap r'
      exact ⟨_, .emptyObject hinner, by rw [heq, hr, hclose]; simp⟩
    · obtain ⟨⟨ms, r''⟩, hmembers, hpair⟩ := Option.map_eq_some_iff.1 hv
      obtain ⟨rfl, rfl⟩ := Prod.mk.inj hpair
      obtain ⟨inner, hinner, hr⟩ := exists_gap r'
      obtain ⟨t, ht, hinside⟩ := h.members hmembers
      exact ⟨_, .object (ht.gap_append hinner), by rw [heq, hr, hinside]; simp⟩
  · obtain ⟨⟨n, r'⟩, hnumeral, hpair⟩ := Option.map_eq_some_iff.1 hv
    obtain ⟨rfl, rfl⟩ := Prod.mk.inj hpair
    obtain ⟨t, ht, heq⟩ := exists_of_numeral hnumeral
    exact ⟨t, .number ht, heq⟩

theorem Sound.items_succ {fuel : Nat} (h : Sound fuel)
    (hitems : Written.items (fuel + 1) s = some (vs, r)) :
    ∃ t, ItemsText vs t ∧ s = t ++ ']' :: r := by
  rw [Written.items, Option.bind_eq_bind, Option.bind_eq_some_iff] at hitems
  obtain ⟨⟨v, r'⟩, hv, hitems⟩ := hitems
  obtain ⟨t, ht, rfl⟩ := h.spaced hv
  dsimp only at hitems
  split at hitems
  · next r'' hcomma =>
    obtain ⟨⟨vs', r₁⟩, hmore, heq⟩ := Option.map_eq_some_iff.1 hitems
    obtain ⟨rfl, rfl⟩ := Prod.mk.inj heq
    obtain ⟨t', ht', rfl⟩ := h.items hmore
    exact ⟨t ++ ',' :: t', .more ht ht', by rw [hcomma, List.append_assoc, List.cons_append]⟩
  · next r'' hclose =>
    obtain ⟨rfl, rfl⟩ := Prod.mk.inj (Option.some.inj hitems)
    exact ⟨t, .last ht, by rw [hclose]⟩
  · cases hitems

theorem Sound.members_succ {fuel : Nat} (h : Sound fuel)
    (hmembers : Written.members (fuel + 1) s = some (ms, r)) :
    ∃ t, MembersText ms t ∧ s = t ++ '\x7d' :: r := by
  rw [Written.members] at hmembers
  obtain ⟨before, hbefore, hs⟩ := exists_gap s
  split at hmembers
  · next r₁ hquote =>
    obtain ⟨⟨k, r₂⟩, hstring, hrest⟩ := Option.bind_eq_some_iff.1 hmembers
    obtain ⟨name, hname, rfl⟩ := exists_of_stringBody hstring
    obtain ⟨after, hafter, hr⟩ := exists_gap r₂
    dsimp only at hrest
    split at hrest
    · next r₃ hcolon =>
      obtain ⟨⟨v, r₄⟩, hv, hbehind⟩ := Option.bind_eq_some_iff.1 hrest
      obtain ⟨t, ht, rfl⟩ := h.spaced hv
      have hmember := MemberText.mk hbefore hname hafter ht
      rw [hs, hquote, hr, hcolon]
      dsimp only at hbehind
      split at hbehind
      · next r₅ hcomma =>
        obtain ⟨⟨ms', r₆⟩, hmore, hpair⟩ := Option.map_eq_some_iff.1 hbehind
        obtain ⟨rfl, rfl⟩ := Prod.mk.inj hpair
        obtain ⟨t', ht', rfl⟩ := h.members hmore
        exact ⟨_, .more hmember ht', by rw [hcomma]; simp⟩
      · next r₅ hclose =>
        obtain ⟨rfl, rfl⟩ := Prod.mk.inj (Option.some.inj hbehind)
        exact ⟨_, .last hmember, by rw [hclose]; simp⟩
      · cases hbehind
    · cases hrest
  · cases hmembers

theorem sound (fuel : Nat) : Sound fuel := by
  induction fuel with
  | zero =>
    refine ⟨fun h => ?_, fun h => ?_, fun h => ?_⟩
    · rw [Written.value] at h
      cases h
    · rw [Written.items] at h
      cases h
    · rw [Written.members] at h
      cases h
  | succ fuel ih => exact ⟨ih.value_succ, ih.items_succ, ih.members_succ⟩

/-! ## What spells a value is read -/

/-- What spells a value is read with so much fuel, if that is twice as much as its length. -/
structure Complete (fuel : Nat) : Prop where
  value : ∀ {t rest w}, ValueText w t → 2 * t.length ≤ fuel → Stops rest →
    Written.value fuel (t ++ rest) = some (w, rest)
  items : ∀ {t rest vs}, ItemsText vs t → 2 * t.length + 1 ≤ fuel →
    Written.items fuel (t ++ ']' :: rest) = some (vs, rest)
  members : ∀ {t rest ms}, MembersText ms t → 2 * t.length + 1 ≤ fuel →
    Written.members fuel (t ++ '\x7d' :: rest) = some (ms, rest)

/-- A text that begins with a character that is no space and closes no container. -/
def Opens (s : List Char) : Prop :=
  ∃ c r, s = c :: r ∧ isSpace c = false ∧ c ≠ ']' ∧ c ≠ '\x7d'

theorem Opens.append (h : Opens s) (t : List Char) : Opens (s ++ t) := by
  obtain ⟨c, r, rfl, hc⟩ := h
  exact ⟨c, r ++ t, rfl, hc⟩

theorem Opens.length_pos (h : Opens s) : 0 < s.length := by
  obtain ⟨c, r, rfl, -⟩ := h
  exact Nat.succ_pos _

theorem Opens.skipSpace_eq (h : Opens s) : skipSpace s = s := by
  obtain ⟨c, r, rfl, hc, -⟩ := h
  exact skipSpace_cons hc r

/-- A numeral begins with a sign or a digit. -/
theorem NumeralText.front (h : NumeralText n t) :
    ∃ c r, t = c :: r ∧ (c = '-' ∨ c.isDigit = true) := by
  cases h with
  | @mk negative ds fraction exponent whole f e digits zero behind scale =>
    cases negative with
    | true => exact ⟨'-', _, rfl, Or.inl rfl⟩
    | false =>
      obtain ⟨c, r, rfl⟩ := List.exists_cons_of_ne_nil digits.ne_nil
      exact ⟨c, r ++ (f ++ e), rfl, Or.inr (digits.digit c List.mem_cons_self)⟩

theorem ValueText.opens (h : ValueText w t) : Opens t := by
  cases h with
  | null => exact ⟨'n', _, rfl, by decide⟩
  | bool b =>
    cases b with
    | true => exact ⟨'t', _, rfl, by decide⟩
    | false => exact ⟨'f', _, rfl, by decide⟩
  | number numeral =>
    obtain ⟨c, r, rfl, hc⟩ := numeral.front
    refine ⟨c, r, rfl, isSpace_of_front hc, ?_, ?_⟩
    · rintro rfl
      exact absurd hc (by decide)
    · rintro rfl
      exact absurd hc (by decide)
  | string => exact ⟨'"', _, rfl, by decide⟩
  | emptyArray | array => exact ⟨'[', _, rfl, by decide⟩
  | emptyObject | object => exact ⟨'\x7b', _, rfl, by decide⟩

theorem SpacedText.exists_opens (h : SpacedText w t) :
    ∃ gap s, Gap gap ∧ Opens s ∧ SpacedText w s ∧ t = gap ++ s := by
  cases h with
  | @mk v before s after space value space' =>
    have hback : SpacedText w ([] ++ (s ++ after)) := .mk (fun _ hc => by cases hc) value space'
    exact ⟨before, s ++ after, space, value.opens.append after, hback, rfl⟩

theorem ItemsText.exists_opens (h : ItemsText vs t) :
    ∃ gap s, Gap gap ∧ Opens s ∧ ItemsText vs s ∧ t = gap ++ s := by
  cases h with
  | last item =>
    obtain ⟨gap, s, hgap, hs, hitem, rfl⟩ := item.exists_opens
    exact ⟨gap, s, hgap, hs, .last hitem, rfl⟩
  | more item items =>
    obtain ⟨gap, s, hgap, hs, hitem, rfl⟩ := item.exists_opens
    exact ⟨gap, _, hgap, hs.append _, .more hitem items, List.append_assoc ..⟩

theorem MemberText.exists_opens {m : List Piece × Written} (h : MemberText m t) :
    ∃ gap s, Gap gap ∧ Opens s ∧ MemberText m s ∧ t = gap ++ s := by
  cases h with
  | @mk ps v before name after s space pieces space' value =>
    have hback : MemberText (ps, v) ([] ++ '"' :: (name ++ '"' :: (after ++ ':' :: s))) :=
      .mk (fun _ hc => by cases hc) pieces space' value
    exact ⟨before, _, space, ⟨'"', _, rfl, by decide⟩, hback, rfl⟩

theorem MembersText.exists_opens (h : MembersText ms t) :
    ∃ gap s, Gap gap ∧ Opens s ∧ MembersText ms s ∧ t = gap ++ s := by
  cases h with
  | last member =>
    obtain ⟨gap, s, hgap, hs, hmember, rfl⟩ := member.exists_opens
    exact ⟨gap, s, hgap, hs, .last hmember, rfl⟩
  | more member members =>
    obtain ⟨gap, s, hgap, hs, hmember, rfl⟩ := member.exists_opens
    exact ⟨gap, _, hgap, hs.append _, .more hmember members, List.append_assoc ..⟩

/-- An opening brace with something behind it that does not close it starts an object. -/
theorem value_brace {c : Char} (hs : skipSpace s = c :: r) (hc : c ≠ '\x7d') (fuel : Nat) :
    Written.value (fuel + 1) ('\x7b' :: s) =
      (Written.members fuel (c :: r)).map fun p => (Written.object p.1, p.2) := by
  have hopen : skipSpace ('\x7b' :: s) = '\x7b' :: s := skipSpace_cons rfl _
  simp only [Written.value, hopen, hs]
  split
  · next heq => exact absurd (List.head_eq_of_cons_eq heq) hc
  · rfl

theorem Complete.value_succ {fuel : Nat} (h : Complete fuel) (ht : ValueText w t)
    (hfuel : 2 * t.length ≤ fuel + 1) (hrest : Stops rest) :
    Written.value (fuel + 1) (t ++ rest) = some (w, rest) := by
  cases ht with
  | null => rfl
  | bool b => cases b <;> rfl
  | number numeral =>
    have hread := numeral.numeral_append hrest
    obtain ⟨c, r, rfl, hc⟩ := numeral.front
    rw [List.cons_append] at hread ⊢
    rw [value_of_front hc, hread]
    rfl
  | string pieces =>
    rw [List.cons_append, List.append_assoc, List.singleton_append, Written.value,
      skipSpace_cons rfl]
    simp only [pieces.stringBody_append, Option.map_some]
  | emptyArray space =>
    rw [List.cons_append, List.append_assoc, List.singleton_append, Written.value,
      skipSpace_cons rfl]
    simp only [space.skipSpace_append]
    rfl
  | array items =>
    obtain ⟨gap, s, hgap, hopens, hitems, rfl⟩ := items.exists_opens
    have hskip : skipSpace (gap ++ (s ++ ']' :: rest)) = s ++ ']' :: rest := by
      rw [hgap.skipSpace_append, (hopens.append _).skipSpace_eq]
    have hshort : 2 * s.length + 1 ≤ fuel := by
      simp only [List.length_cons, List.length_append, List.length_nil] at hfuel
      omega
    obtain ⟨c, r, hs, -, hclose, -⟩ := hopens.append (']' :: rest)
    rw [List.cons_append, List.append_assoc, List.append_assoc, List.singleton_append,
      value_bracket (hskip.trans hs) hclose, ← hs, h.items hitems hshort]
    rfl
  | emptyObject space =>
    rw [List.cons_append, List.append_assoc, List.singleton_append, Written.value,
      skipSpace_cons rfl]
    simp only [space.skipSpace_append]
    rfl
  | object members =>
    obtain ⟨gap, s, hgap, hopens, hmembers, rfl⟩ := members.exists_opens
    have hskip : skipSpace (gap ++ (s ++ '\x7d' :: rest)) = s ++ '\x7d' :: rest := by
      rw [hgap.skipSpace_append, (hopens.append _).skipSpace_eq]
    have hshort : 2 * s.length + 1 ≤ fuel := by
      simp only [List.length_cons, List.length_append, List.length_nil] at hfuel
      omega
    obtain ⟨c, r, hs, -, -, hclose⟩ := hopens.append ('\x7d' :: rest)
    rw [List.cons_append, List.append_assoc, List.append_assoc, List.singleton_append,
      value_brace (hskip.trans hs) hclose, ← hs, h.members hmembers hshort]
    rfl

theorem Complete.spaced {fuel : Nat} (h : Complete fuel) (ht : SpacedText w t)
    (hfuel : 2 * t.length ≤ fuel) (hrest : Stops rest) :
    ∃ gap, Written.value fuel (t ++ rest) = some (w, gap ++ rest) ∧ Gap gap := by
  cases ht with
  | mk space value space' =>
    refine ⟨_, ?_, space'⟩
    rw [List.append_assoc, space.value_append, List.append_assoc]
    refine h.value value ?_ (space'.stops_append hrest)
    rw [List.length_append, List.length_append] at hfuel
    omega

theorem Complete.items_succ {fuel : Nat} (h : Complete fuel) (ht : ItemsText vs t)
    (hfuel : 2 * t.length + 1 ≤ fuel + 1) :
    Written.items (fuel + 1) (t ++ ']' :: rest) = some (vs, rest) := by
  cases ht with
  | last item =>
    obtain ⟨gap, hv, hgap⟩ := h.spaced item (by omega) (stops_cons (.inr (.inl rfl)) rest)
    rw [Written.items, hv]
    simp only [Option.bind_eq_bind, Option.bind_some, hgap.skipSpace_append]
    rfl
  | @more v vs s t item items =>
    rw [List.length_append, List.length_cons] at hfuel
    obtain ⟨gap, hv, hgap⟩ := h.spaced item (by omega) (stops_cons (.inl rfl) (t ++ ']' :: rest))
    rw [List.append_assoc, List.cons_append, Written.items, hv]
    simp only [Option.bind_eq_bind, Option.bind_some, hgap.skipSpace_append]
    rw [skipSpace_cons rfl]
    simp only [h.items items (by omega), Option.map_some]

/-- A member is read, with what ends it. -/
theorem Complete.member {fuel : Nat} {m : List Piece × Written} (h : Complete fuel)
    (ht : MemberText m s) (hfuel : 2 * s.length ≤ fuel) {c : Char} (hc : c = ',' ∨ c = '\x7d')
    (r : List Char) : Written.members (fuel + 1) (s ++ c :: r) =
      match c :: r with
      | ',' :: r => (Written.members fuel r).map fun p => (m :: p.1, p.2)
      | '\x7d' :: r => some ([m], r)
      | _ => none := by
  cases ht with
  | @mk ps v before name after t space pieces space' value =>
    have hstop : Stops (c :: r) := stops_cons (hc.imp_right Or.inr) r
    have hlength : t.length ≤ (before ++ '"' :: (name ++ '"' :: (after ++ ':' :: t))).length := by
      simp only [List.length_append, List.length_cons]
      omega
    obtain ⟨gap, hv, hgap⟩ := h.spaced value (by omega) hstop
    have hassoc : before ++ '"' :: (name ++ '"' :: (after ++ ':' :: t)) ++ c :: r =
        before ++ '"' :: (name ++ '"' :: (after ++ ':' :: (t ++ c :: r))) := by
      simp only [List.append_assoc, List.cons_append]
    rw [hassoc, Written.members, space.skipSpace_append, skipSpace_cons rfl]
    simp only [pieces.stringBody_append, Option.bind_eq_bind, Option.bind_some,
      space'.skipSpace_append]
    rw [skipSpace_cons rfl]
    simp only [hv, Option.bind_some, hgap.skipSpace_append]
    rcases hc with rfl | rfl <;> rfl

theorem Complete.members_succ {fuel : Nat} (h : Complete fuel) (ht : MembersText ms t)
    (hfuel : 2 * t.length + 1 ≤ fuel + 1) :
    Written.members (fuel + 1) (t ++ '\x7d' :: rest) = some (ms, rest) := by
  cases ht with
  | last member => exact h.member member (by omega) (.inr rfl) rest
  | @more m ms s t member members =>
    rw [List.length_append, List.length_cons] at hfuel
    rw [List.append_assoc, List.cons_append, h.member member (by omega) (.inl rfl)]
    simp only [h.members members (by omega), Option.map_some]

theorem complete (fuel : Nat) : Complete fuel := by
  induction fuel with
  | zero =>
    refine ⟨fun ht hfuel _ => ?_, fun _ hfuel => ?_, fun _ hfuel => ?_⟩
    · have hpos := ht.opens.length_pos
      omega
    · omega
    · omega
  | succ fuel ih => exact ⟨ih.value_succ, ih.items_succ, ih.members_succ⟩

/-! ## Texts -/

/-- The texts that are read, and what is read of them. -/
theorem parse_eq_some_iff : Written.parse s = some w ↔ SpacedText w s := by
  rw [Written.parse, Option.bind_eq_bind, Option.bind_eq_some_iff]
  constructor
  · rintro ⟨⟨v, r⟩, hv, hend⟩
    dsimp only at hend
    split at hend
    · next hskip =>
      obtain rfl := Option.some.inj hend
      obtain ⟨t, ht, rfl⟩ := (sound _).spaced hv
      rw [hskip, List.append_nil]
      exact ht
    · cases hend
  · intro h
    have hstop : Stops [] := fun c hc => by cases hc
    obtain ⟨gap, hv, hgap⟩ := (complete (2 * s.length + 2)).spaced h (by omega) hstop
    rw [List.append_nil, List.append_nil] at hv
    exact ⟨(w, gap), hv, if_pos hgap.skipSpace_eq_nil⟩

end HamlServer.Json
