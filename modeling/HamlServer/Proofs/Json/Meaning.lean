import HamlServer.Proofs.Json.Numeral
import HamlServer.Proofs.Json.Token

/-!
# JSON texts that have a value

Not every text that keeps to the grammar says something.  A numeral may be too large for a
floating-point number, and a unit of a string may be one half of a character whose other half is
missing.  The reader also bounds how deep containers may be nested.  These are the only reasons for
which a text has no value.

* `isSome_characters_iff`: the strings that have characters.
* `isSome_toJson?_iff`: the texts that have a value.
-/

namespace HamlServer.Json

variable {ps : List Piece} {depth : Nat}

/-! ## Strings -/

/-- The units of a string that are surrogates come in pairs, the leading one first. -/
inductive Paired : List Piece → Prop where
  | nil : Paired []
  | char {c : Char} {ps : List Piece} (more : Paired ps) : Paired (.char c :: ps)
  | unit {n : Nat} {ps : List Piece} (alone : ¬ (0xD800 ≤ n ∧ n < 0xE000)) (more : Paired ps) :
      Paired (.unit n :: ps)
  | pair {n m : Nat} {ps : List Piece} (lead : 0xD800 ≤ n ∧ n < 0xDC00)
      (trail : 0xDC00 ≤ m ∧ m < 0xE000) (more : Paired ps) : Paired (.unit n :: .unit m :: ps)

theorem Paired.isSome_characters (h : Paired ps) : (characters ps).isSome = true := by
  induction h with
  | nil => rfl
  | char _ ih => rw [characters, Option.isSome_map, ih]
  | unit alone _ ih => rw [characters_unit alone, Option.isSome_map, ih]
  | pair lead trail _ ih => rw [characters, if_pos lead, if_pos trail, Option.isSome_map, ih]

theorem paired_of_isSome (h : (characters ps).isSome = true) : Paired ps := by
  fun_induction characters ps with
  | case1 => exact .nil
  | case2 c r ih =>
    rw [Option.isSome_map] at h
    exact .char (ih h)
  | case3 n m r lead trail ih =>
    rw [Option.isSome_map] at h
    exact .pair lead trail (ih h)
  | case4 => cases h
  | case5 => cases h
  | case6 n m r hlead htrail ih =>
    rw [Option.isSome_map] at h
    exact .unit (by omega) (ih h)
  | case7 => cases h
  | case8 n r _ halone ih =>
    rw [Option.isSome_map] at h
    exact .unit halone (ih h)

/-- The strings that have characters. -/
theorem isSome_characters_iff : (characters ps).isSome = true ↔ Paired ps :=
  ⟨paired_of_isSome, Paired.isSome_characters⟩

theorem isSome_text?_iff : (text? ps).isSome = true ↔ Paired ps := by
  rw [text?, Option.isSome_map, isSome_characters_iff]

/-! ## Values -/

/-- No more than so many containers stand inside each other. -/
inductive NestedAtMost : (depth : Nat) → Written → Prop where
  | null {depth : Nat} : NestedAtMost depth .null
  | bool {depth : Nat} (b : Bool) : NestedAtMost depth (.bool b)
  | number {depth : Nat} (n : Numeral) : NestedAtMost depth (.number n)
  | string {depth : Nat} (ps : List Piece) : NestedAtMost depth (.string ps)
  | array {depth : Nat} {vs : List Written} (items : ∀ v ∈ vs, NestedAtMost depth v) :
      NestedAtMost (depth + 1) (.array vs)
  | object {depth : Nat} {ms : List (List Piece × Written)}
      (members : ∀ m ∈ ms, NestedAtMost depth m.2) : NestedAtMost (depth + 1) (.object ms)

/-- A text with a value, however deep it is nested: its numerals are read as finite numbers, and the
surrogates in its strings come in pairs. -/
inductive Meaningful : Written → Prop where
  | null : Meaningful .null
  | bool (b : Bool) : Meaningful (.bool b)
  | number {n : Numeral} (finite : n.IsFinite) : Meaningful (.number n)
  | string {ps : List Piece} (paired : Paired ps) : Meaningful (.string ps)
  | array {vs : List Written} (items : ∀ v ∈ vs, Meaningful v) : Meaningful (.array vs)
  | object {ms : List (List Piece × Written)} (names : ∀ m ∈ ms, Paired m.1)
      (members : ∀ m ∈ ms, Meaningful m.2) : Meaningful (.object ms)

variable {n : Numeral} {vs : List Written} {ms : List (List Piece × Written)}

theorem meaningful_number_iff : Meaningful (.number n) ↔ n.IsFinite := by
  constructor
  · rintro ⟨⟩
    assumption
  · exact .number

theorem meaningful_string_iff : Meaningful (.string ps) ↔ Paired ps := by
  constructor
  · rintro ⟨⟩
    assumption
  · exact .string

theorem meaningful_array_iff : Meaningful (.array vs) ↔ ∀ v ∈ vs, Meaningful v := by
  constructor
  · rintro ⟨⟩
    assumption
  · exact .array

theorem meaningful_object_iff :
    Meaningful (.object ms) ↔ ∀ m ∈ ms, Paired m.1 ∧ Meaningful m.2 := by
  constructor
  · intro h
    cases h with
    | object names members => exact fun m hm => ⟨names m hm, members m hm⟩
  · exact fun h => .object (fun m hm => (h m hm).1) fun m hm => (h m hm).2

theorem nestedAtMost_array_iff :
    NestedAtMost (depth + 1) (.array vs) ↔ ∀ v ∈ vs, NestedAtMost depth v := by
  constructor
  · rintro ⟨⟩
    assumption
  · exact .array

theorem nestedAtMost_object_iff :
    NestedAtMost (depth + 1) (.object ms) ↔ ∀ m ∈ ms, NestedAtMost depth m.2 := by
  constructor
  · rintro ⟨⟩
    assumption
  · exact .object

namespace Written

theorem isSome_itemsToJson?_iff :
    (itemsToJson? depth vs).isSome = true ↔ ∀ v ∈ vs, (toJson? depth v).isSome = true := by
  induction vs with
  | nil => simp [itemsToJson?]
  | cons v vs ih =>
    rw [List.forall_mem_cons, ← ih, itemsToJson?]
    cases toJson? depth v <;> cases itemsToJson? depth vs <;> simp

theorem isSome_memberToJson?_iff {m : List Piece × Written} :
    (memberToJson? depth m).isSome = true ↔ Paired m.1 ∧ (toJson? depth m.2).isSome = true := by
  obtain ⟨k, v⟩ := m
  rw [← isSome_text?_iff, memberToJson?]
  cases text? k <;> cases toJson? depth v <;> simp

theorem isSome_membersToJson?_iff :
    (membersToJson? depth ms).isSome = true ↔
      ∀ m ∈ ms, Paired m.1 ∧ (toJson? depth m.2).isSome = true := by
  induction ms with
  | nil => simp [membersToJson?]
  | cons m ms ih =>
    rw [List.forall_mem_cons, ← ih, ← isSome_memberToJson?_iff, membersToJson?]
    cases memberToJson? depth m <;> cases membersToJson? depth ms <;> simp

/-- Bounds on the nesting do not matter for a numeral and a string. -/
theorem toJson?_number (depth : Nat) (n : Numeral) :
    toJson? depth (.number n) = n.value?.map .number := by
  cases depth <;> rfl

theorem toJson?_string (depth : Nat) (ps : List Piece) :
    toJson? depth (.string ps) = (text? ps).map .string := by
  cases depth <;> rfl

/-- The texts that have a value.  What is in a container has one level less to itself, so the
recursion is on the depth. -/
theorem isSome_toJson?_iff : ∀ (depth : Nat) (w : Written),
    (toJson? depth w).isSome = true ↔ NestedAtMost depth w ∧ Meaningful w
  | depth, .null => iff_of_true (by cases depth <;> rfl) ⟨.null, .null⟩
  | depth, .bool b => iff_of_true (by cases depth <;> rfl) ⟨.bool b, .bool b⟩
  | depth, .number n => by
    rw [toJson?_number, Option.isSome_map, and_iff_right (.number n), meaningful_number_iff,
      Numeral.isSome_value?_iff]
  | depth, .string ps => by
    rw [toJson?_string, Option.isSome_map, and_iff_right (.string ps), meaningful_string_iff,
      isSome_text?_iff]
  | 0, .array vs => iff_of_false Bool.false_ne_true fun h => by cases h.1
  | 0, .object ms => iff_of_false Bool.false_ne_true fun h => by cases h.1
  | depth + 1, .array vs => by
    rw [toJson?, Option.isSome_map, isSome_itemsToJson?_iff, nestedAtMost_array_iff,
      meaningful_array_iff]
    simp only [isSome_toJson?_iff depth, forall_and]
  | depth + 1, .object ms => by
    rw [toJson?, Option.isSome_map, isSome_membersToJson?_iff, nestedAtMost_object_iff,
      meaningful_object_iff]
    simp only [isSome_toJson?_iff depth, forall_and]
    exact and_left_comm

end Written

end HamlServer.Json
