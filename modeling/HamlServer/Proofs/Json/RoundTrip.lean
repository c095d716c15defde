import HamlServer.Proofs.Json.Lexeme
import HamlServer.Proofs.Json.Member

/-!
# What is printed is read back

`Exact` are the values that their text keeps: no floating-point numbers, integers that fit a word,
and no more containers inside each other than the reader takes.  `Spells` ties a written text to its
value, and says that the reader finds that text at the front of whatever follows.

* `Exact.spells`: the compact text of a value spells it.
* `parse?_render`: reading undoes printing.
-/

namespace HamlServer.Json

/-- A value that its text keeps.  At most `depth` containers stand inside each other, and the
members of an object are in the order of their names, each name once, as `ofMembers` leaves them. -/
inductive Exact : (depth : Nat) → Json → Prop where
  | null {depth : Nat} : Exact depth .null
  | bool {depth : Nat} (b : Bool) : Exact depth (.bool b)
  | int {depth : Nat} {n : Int} (least : minInt ≤ n) (greatest : n ≤ maxWord) :
      Exact depth (.number (.int n))
  | string {depth : Nat} (s : String) : Exact depth (.string s)
  | array {depth : Nat} {vs : List Json} (items : ∀ v ∈ vs, Exact depth v) :
      Exact (depth + 1) (.array vs)
  | object {depth : Nat} {ms : List (String × Json)} (sorted : ms.Pairwise fun a b => a.1 < b.1)
      (members : ∀ m ∈ ms, Exact depth m.2) : Exact (depth + 1) (.object ms)

/-- A written text spells a value: it stands where the compact text of the value stands, and it has
that value.  The reader has enough fuel if it has twice the length of the text. -/
structure Spells (depth : Nat) (w : Written) (v : Json) : Prop where
  front : ∃ c r, chars v = c :: r ∧ isSpace c = false ∧ c ≠ ']'
  read : ∀ fuel rest, 2 * (chars v).length ≤ fuel + 1 → Stops rest →
    Written.value (fuel + 1) (chars v ++ rest) = some (w, rest)
  meaning : w.toJson? depth = some v

theorem Spells.value {depth : Nat} {w : Written} {v : Json} (h : Spells depth w v) (fuel : Nat)
    (hf : 2 * (chars v).length ≤ fuel) {rest : List Char} (hr : Stops rest) :
    Written.value fuel (chars v ++ rest) = some (w, rest) := by
  obtain ⟨c, r, hc, _⟩ := h.front
  have hpos : 0 < (chars v).length := by rw [hc]; exact Nat.succ_pos _
  cases fuel with
  | zero => omega
  | succ fuel => exact h.read fuel rest hf hr

/-! ## Characters between values -/

theorem skipSpace_cons {c : Char} (h : isSpace c = false) (r : List Char) :
    skipSpace (c :: r) = c :: r :=
  List.dropWhile_cons_of_neg (by simp [h])

theorem stops_cons {c : Char} (h : c = ',' ∨ c = ']' ∨ c = '\x7d') (r : List Char) :
    Stops (c :: r) := by
  intro x hx
  obtain rfl : c = x := Option.some.inj hx
  rcases h with rfl | rfl | rfl <;> decide

/-! ## Values that are no containers -/

theorem text?_pieces (s : String) : text? (s.toList.map piece) = some s := by
  rw [text?, characters_pieces, Option.map_some, String.ofList_toList]

theorem spells_null (depth : Nat) : Spells depth .null .null where
  front := ⟨'n', ['u', 'l', 'l'], rfl, rfl, by decide⟩
  read _ _ _ _ := rfl
  meaning := by cases depth <;> rfl

theorem spells_bool (depth : Nat) (b : Bool) : Spells depth (.bool b) (.bool b) where
  front := by
    cases b with
    | true => exact ⟨'t', ['r', 'u', 'e'], rfl, rfl, by decide⟩
    | false => exact ⟨'f', ['a', 'l', 's', 'e'], rfl, rfl, by decide⟩
  read _ _ _ _ := by cases b <;> rfl
  meaning := by cases depth <;> rfl

theorem quote_append (s : String) (rest : List Char) :
    quote s ++ rest = '"' :: (s.toList.flatMap escapeChar ++ '"' :: rest) := by
  simp [quote]

theorem spells_string (depth : Nat) (s : String) :
    Spells depth (.string (s.toList.map piece)) (.string s) where
  front := ⟨'"', _, rfl, rfl, by decide⟩
  read fuel rest _ _ := by
    rw [chars, quote_append, Written.value, skipSpace_cons rfl]
    simp only [stringBody_escape, Option.map_some]
  meaning := by
    cases depth <;> simp only [Written.toJson?, text?_pieces, Option.map_some]

/-- The first character of a printed integer. -/
theorem front_toString (n : Int) : ∃ c r, (toString n).toList = c :: r ∧
    (c = '-' ∨ c.isDigit = true) := by
  obtain ⟨c, r, hc, hd⟩ := Text.toDigits_eq_cons n.natAbs
  rw [toList_toString, hc]
  split
  · exact ⟨'-', c :: r, rfl, Or.inl rfl⟩
  · exact ⟨c, r, rfl, Or.inr hd⟩

theorem isSpace_of_front {c : Char} (h : c = '-' ∨ c.isDigit = true) : isSpace c = false := by
  rw [isSpace]
  by_cases h1 : c = ' '
  · subst h1; exact absurd h (by decide)
  by_cases h2 : c = '\n'
  · subst h2; exact absurd h (by decide)
  by_cases h3 : c = '\t'
  · subst h3; exact absurd h (by decide)
  by_cases h4 : c = '\r'
  · subst h4; exact absurd h (by decide)
  simp [h1, h2, h3, h4]

/-- A text that starts like a numeral is read as one. -/
theorem value_of_front {c : Char} (h : c = '-' ∨ c.isDigit = true) (fuel : Nat) (r : List Char) :
    Written.value (fuel + 1) (c :: r) =
      (numeral (c :: r)).map fun p => (Written.number p.1, p.2) := by
  rw [Written.value, skipSpace_cons (isSpace_of_front h)]
  split <;>
    first
    | rfl
    | next heq =>
      -- all other values start with a letter, a quote or a bracket
      obtain rfl := List.head_eq_of_cons_eq heq
      exact absurd h (by decide)

theorem spells_int (depth : Nat) {n : Int} (hlo : minInt ≤ n) (hhi : n ≤ maxWord) :
    Spells depth (.number (numeralOf n)) (.number (.int n)) where
  front := by
    obtain ⟨c, r, hc, hd⟩ := front_toString n
    refine ⟨c, r, hc, isSpace_of_front hd, ?_⟩
    rintro rfl
    exact absurd hd (by decide)
  read fuel rest _ hr := by
    obtain ⟨c, r, hc, hd⟩ := front_toString n
    have hread := numeral_toString n hr
    show Written.value (fuel + 1) ((toString n).toList ++ rest) = _
    rw [hc, List.cons_append] at hread ⊢
    rw [value_of_front hd, hread]
    rfl
  meaning := by
    cases depth <;> simp only [Written.toJson?, value?_numeralOf hlo hhi, Option.map_some]

/-! ## Arrays -/

theorem items_read {depth : Nat} {v : Json} {vs : List Json}
    (h : ∀ x ∈ v :: vs, ∃ w, Spells depth w x) :
    ∃ ws, Written.itemsToJson? depth ws = some (v :: vs) ∧ ∀ fuel rest,
      2 * ((chars v).length + (itemChars vs).length) + 1 ≤ fuel →
      Written.items fuel (chars v ++ (itemChars vs ++ rest)) = some (ws, rest) := by
  induction vs generalizing v with
  | nil =>
    obtain ⟨w, hw⟩ := h v List.mem_cons_self
    refine ⟨[w], by simp [Written.itemsToJson?, hw.meaning], fun fuel rest hf => ?_⟩
    cases fuel with
    | zero => omega
    | succ fuel =>
      have hv := hw.value fuel (by omega) (stops_cons (.inr (.inl rfl)) rest)
      rw [itemChars, List.singleton_append, Written.items, hv]
      rfl
  | cons v' vs ih =>
    obtain ⟨w, hw⟩ := h v List.mem_cons_self
    obtain ⟨ws, hj, hread⟩ := ih fun x hx => h x (List.mem_cons_of_mem _ hx)
    refine ⟨w :: ws, by simp [Written.itemsToJson?, hw.meaning, hj], fun fuel rest hf => ?_⟩
    cases fuel with
    | zero => omega
    | succ fuel =>
      have hlen : (itemChars (v' :: vs)).length =
          (chars v').length + (itemChars vs).length + 1 := by
        simp [itemChars]
      have hv := hw.value fuel (by omega) (stops_cons (.inl rfl)
        (chars v' ++ (itemChars vs ++ rest)))
      have hvs := hread fuel rest (by omega)
      rw [itemChars, List.cons_append, List.cons_append, List.append_assoc, Written.items, hv]
      show (Written.items fuel (chars v' ++ (itemChars vs ++ rest))).map _ = _
      rw [hvs]
      rfl

/-- An opening bracket with something behind it that does not close it starts an array. -/
theorem value_bracket {c : Char} {s r : List Char} (hs : skipSpace s = c :: r) (hc : c ≠ ']')
    (fuel : Nat) : Written.value (fuel + 1) ('[' :: s) =
      (Written.items fuel (c :: r)).map fun p => (Written.array p.1, p.2) := by
  have hopen : skipSpace ('[' :: s) = '[' :: s := skipSpace_cons rfl _
  simp only [Written.value, hopen, hs]
  split
  · next heq => exact absurd (List.head_eq_of_cons_eq heq) hc
  · rfl

theorem spells_array {depth : Nat} {vs : List Json} (h : ∀ v ∈ vs, ∃ w, Spells depth w v) :
    ∃ w, Spells (depth + 1) w (.array vs) := by
  cases vs with
  | nil => exact ⟨.array [], ⟨'[', [']'], rfl, rfl, by decide⟩, fun _ _ _ _ => rfl, rfl⟩
  | cons v vs =>
    obtain ⟨ws, hj, hread⟩ := items_read h
    obtain ⟨w, hw⟩ := h v List.mem_cons_self
    obtain ⟨c, r, hc, hspace, hclose⟩ := hw.front
    refine ⟨.array ws, ⟨'[', _, rfl, rfl, by decide⟩, fun fuel rest hf _ => ?_, ?_⟩
    · have hlen : (chars (.array (v :: vs))).length =
          (chars v).length + (itemChars vs).length + 1 := by
        simp [chars]
      have hvs := hread fuel rest (by omega)
      rw [hc, List.cons_append] at hvs
      rw [chars, List.cons_append, List.cons_append, List.append_assoc, hc, List.cons_append,
        value_bracket (skipSpace_cons hspace _) hclose, hvs]
      rfl
    · simp only [Written.toJson?, hj, Option.map_some]

/-! ## Objects in a text -/

theorem memberChars_append (m : String × Json) (rest : List Char) :
    memberChars m ++ rest =
      '"' :: (m.1.toList.flatMap escapeChar ++ '"' :: ':' :: (chars m.2 ++ rest)) := by
  rw [memberChars, List.append_assoc, quote_append, List.cons_append]

/-- The name of a member is read, and then its value. -/
theorem members_member {depth fuel : Nat} {m : String × Json} {w : Written}
    (hw : Spells depth w m.2) (hf : 2 * (chars m.2).length ≤ fuel) {c : Char}
    (hc : c = ',' ∨ c = '\x7d') (r : List Char) :
    Written.members (fuel + 1) (memberChars m ++ c :: r) =
      match c :: r with
      | ',' :: r => (Written.members fuel r).map fun p => ((m.1.toList.map piece, w) :: p.1, p.2)
      | '\x7d' :: r => some ([(m.1.toList.map piece, w)], r)
      | _ => none := by
  have hstop : Stops (c :: r) := stops_cons (by rcases hc with h | h <;> simp [h]) r
  have hv := hw.value fuel hf hstop
  rw [memberChars_append, Written.members, skipSpace_cons rfl]
  simp only [stringBody_escape, Option.bind_eq_bind, Option.bind_some]
  rw [skipSpace_cons rfl]
  show (Written.value fuel (chars m.2 ++ c :: r)).bind _ = _
  rw [hv, Option.bind_some]
  rcases hc with rfl | rfl <;> rfl

theorem members_read {depth : Nat} {m : String × Json} {ms : List (String × Json)}
    (h : ∀ x ∈ m :: ms, ∃ w, Spells depth w x.2) :
    ∃ ws, Written.membersToJson? depth ws = some (m :: ms) ∧ ∀ fuel rest,
      2 * ((memberChars m).length + (restChars ms).length) + 1 ≤ fuel →
      Written.members fuel (memberChars m ++ (restChars ms ++ rest)) = some (ws, rest) := by
  have hlen (m : String × Json) : (chars m.2).length ≤ (memberChars m).length := by
    rw [memberChars, List.length_append, List.length_cons]
    omega
  have hmeaning {m : String × Json} {w : Written} (hw : Spells depth w m.2) :
      Written.memberToJson? depth (m.1.toList.map piece, w) = some m := by
    simp [Written.memberToJson?, text?_pieces, hw.meaning]
  induction ms generalizing m with
  | nil =>
    obtain ⟨w, hw⟩ := h m List.mem_cons_self
    refine ⟨[(m.1.toList.map piece, w)], by simp [Written.membersToJson?, hmeaning hw],
      fun fuel rest hf => ?_⟩
    have hm := hlen m
    cases fuel with
    | zero => omega
    | succ fuel =>
      rw [restChars, List.singleton_append, members_member hw (by omega) (.inr rfl)]
      rfl
  | cons m' ms ih =>
    obtain ⟨w, hw⟩ := h m List.mem_cons_self
    obtain ⟨ws, hj, hread⟩ := ih fun x hx => h x (List.mem_cons_of_mem _ hx)
    refine ⟨(m.1.toList.map piece, w) :: ws,
      by simp [Written.membersToJson?, hmeaning hw, hj], fun fuel rest hf => ?_⟩
    have hm := hlen m
    have hr : (restChars (m' :: ms)).length =
        (memberChars m').length + (restChars ms).length + 1 := by
      simp [restChars]
    cases fuel with
    | zero => omega
    | succ fuel =>
      have hms := hread fuel rest (by omega)
      rw [restChars, List.cons_append, List.cons_append, List.append_assoc,
        members_member hw (by omega) (.inl rfl)]
      simp only [hms, Option.map_some]

theorem spells_object {depth : Nat} {ms : List (String × Json)}
    (hs : ms.Pairwise fun a b => a.1 < b.1) (h : ∀ m ∈ ms, ∃ w, Spells depth w m.2) :
    ∃ w, Spells (depth + 1) w (.object ms) := by
  cases ms with
  | nil => exact ⟨.object [], ⟨'\x7b', ['\x7d'], rfl, rfl, by decide⟩, fun _ _ _ _ => rfl, rfl⟩
  | cons m ms =>
    obtain ⟨ws, hj, hread⟩ := members_read h
    refine ⟨.object ws, ⟨'\x7b', _, rfl, rfl, by decide⟩, fun fuel rest hf _ => ?_, ?_⟩
    · have hlen : (chars (.object (m :: ms))).length =
          (memberChars m).length + (restChars ms).length + 1 := by
        simp [chars]
      have hms := hread fuel rest (by omega)
      rw [chars, List.cons_append, List.cons_append, List.append_assoc]
      rw [memberChars_append] at hms ⊢
      rw [Written.value, skipSpace_cons rfl]
      show (Written.members fuel ('"' :: _)).map _ = _
      rw [hms]
      rfl
    · simp only [Written.toJson?, hj, Option.map_some, ofMembers_of_sorted hs]

/-! ## All values -/

/-- The compact text of a value spells it. -/
theorem Exact.spells {depth : Nat} {v : Json} (h : Exact depth v) : ∃ w, Spells depth w v := by
  induction h with
  | null => exact ⟨_, spells_null _⟩
  | bool b => exact ⟨_, spells_bool _ b⟩
  | int least greatest => exact ⟨_, spells_int _ least greatest⟩
  | string s => exact ⟨_, spells_string _ s⟩
  | array _ ih => exact spells_array ih
  | object sorted _ ih => exact spells_object sorted ih

/-- Reading undoes printing. -/
theorem parse?_render {depth : Nat} {v : Json} (h : Exact depth v) :
    parse? depth v.render = some v := by
  obtain ⟨w, hw⟩ := h.spells
  have hstop : Stops [] := fun c hc => by cases hc
  have hread := hw.value (2 * (chars v).length + 2) (by omega) hstop
  have hparse : Written.parse (chars v) = some w := by
    rw [List.append_nil] at hread
    rw [Written.parse, hread]
    rfl
  rw [parse?, render, String.toList_ofList, hparse, Option.bind_some, hw.meaning]

end HamlServer.Json
