import HamlServer.Json.Record
import HamlServer.KeyedList
import Mathlib.Data.List.Induction
import Mathlib.Data.List.Pairwise

/-!
# Members of objects

An object has each of its members once, in the order of their names.  Of the members that it is made
from, the last one of a name is found again under that name.

* `ofMembers_of_sorted`, `exists_ofMembers_sorted`: members that are in order stay as they are, and
  those of an object that was made from members are in order.
* `get?_ofMembers`, `get?_ofOptional`: what is found under a name.
* `optional_of_lookup`, `map_eq_some_iff_of_optional`: a field that may be absent, from what is
  written to what is read and back.
-/

namespace HamlServer.Json

variable {key : String} {v : Json} {ms : List (String × Json)}

/-! ## Order -/

theorem insertMember_of_lt (h : ∀ m ∈ ms, m.1 < key) :
    insertMember key v ms = ms ++ [(key, v)] := by
  induction ms with
  | nil => rfl
  | cons m ms ih =>
    have hm : m.1 < key := h m List.mem_cons_self
    have hne : m.1 ≠ key := fun he => String.lt_irrefl _ (he ▸ hm)
    rw [insertMember, if_neg hne, if_neg (String.lt_asymm hm),
      ih fun x hx => h x (List.mem_cons_of_mem _ hx)]
    rfl

/-- Members that are in order stay as they are. -/
theorem ofMembers_of_sorted (h : ms.Pairwise fun a b => a.1 < b.1) :
    ofMembers ms = .object ms := by
  have fold : ∀ (ms front : List (String × Json)), (front ++ ms).Pairwise (fun a b => a.1 < b.1) →
      ms.foldl (fun acc m => insertMember m.1 m.2 acc) front = front ++ ms := by
    intro ms
    induction ms with
    | nil => simp
    | cons m ms ih =>
      intro front hf
      have hlt : ∀ x ∈ front, x.1 < m.1 := fun x hx =>
        (List.pairwise_append.1 hf).2.2 x hx m List.mem_cons_self
      rw [List.foldl_cons, insertMember_of_lt hlt, ih _ (by simpa using hf), List.append_assoc]
      rfl
  exact congrArg Json.object (fold ms [] h)

theorem mem_insertMember {m : String × Json} (h : m ∈ insertMember key v ms) :
    m = (key, v) ∨ m ∈ ms := by
  induction ms with
  | nil => exact Or.inl (List.mem_singleton.1 h)
  | cons m' ms ih =>
    unfold insertMember at h
    split at h
    · rcases List.mem_cons.1 h with h | h
      · exact Or.inl h
      · exact Or.inr (List.mem_cons_of_mem _ h)
    · split at h
      · exact List.mem_cons.1 h
      · rcases List.mem_cons.1 h with h | h
        · exact Or.inr (List.mem_cons.2 (Or.inl h))
        · exact (ih h).imp_right (List.mem_cons_of_mem _)

/-- A member that is added takes its place in the order. -/
theorem sorted_insertMember (h : ms.Pairwise fun a b => a.1 < b.1) :
    (insertMember key v ms).Pairwise fun a b => a.1 < b.1 := by
  induction ms with
  | nil => exact List.pairwise_singleton _ _
  | cons m ms ih =>
    obtain ⟨hm, hms⟩ := List.pairwise_cons.1 h
    unfold insertMember
    split
    · next hkey => exact List.pairwise_cons.2 ⟨fun x hx => hkey ▸ hm x hx, hms⟩
    · next hne =>
      split
      · next hlt =>
        refine List.pairwise_cons.2 ⟨?_, h⟩
        intro x hx
        rcases List.mem_cons.1 hx with rfl | hx
        · exact hlt
        · exact String.lt_trans hlt (hm x hx)
      · next hge =>
        -- the member comes behind this one, and behind it only what comes later is changed
        have hlt : m.1 < key := by
          rcases Std.lt_trichotomy m.1 key with h | h | h
          · exact h
          · exact absurd h hne
          · exact absurd h hge
        refine List.pairwise_cons.2 ⟨?_, ih hms⟩
        intro x hx
        rcases mem_insertMember hx with rfl | hx
        · exact hlt
        · exact hm x hx

/-- The members of an object that was made from members are in order, and they are some of those
members. -/
theorem exists_ofMembers_sorted (ms : List (String × Json)) :
    ∃ sorted, ofMembers ms = .object sorted ∧ (sorted.Pairwise fun a b => a.1 < b.1) ∧
      ∀ m ∈ sorted, m ∈ ms := by
  refine ⟨_, rfl, ?_⟩
  apply List.foldlRecOn ms (motive := fun acc : List (String × Json) =>
    (acc.Pairwise fun a b => a.1 < b.1) ∧ ∀ m ∈ acc, m ∈ ms)
  · exact ⟨List.Pairwise.nil, nofun⟩
  · rintro acc ⟨hsorted, hacc⟩ m hm
    refine ⟨sorted_insertMember hsorted, ?_⟩
    intro x hx
    rcases mem_insertMember hx with rfl | hx
    · exact hm
    · exact hacc x hx

/-! ## Names -/

section Lookup

variable {α : Type}

/-- Of names that come up once each, a member is found wherever it stands. -/
theorem lookup_reverse {xs : List (String × α)} (h : (xs.map (·.1)).Nodup) (name : String) :
    xs.reverse.lookup name = xs.lookup name := by
  induction xs with
  | nil => rfl
  | cons m xs ih =>
    obtain ⟨k, x⟩ := m
    rw [List.map_cons, List.nodup_cons] at h
    rw [List.reverse_cons, List.lookup_append, ih h.2, lookup_cons_eq, lookup_cons_eq]
    split
    · next hk =>
      rw [hk, lookup_eq_none_of_notMem h.1]
      rfl
    · exact Option.or_none

end Lookup

theorem lookup_insertMember (name : String) :
    (insertMember key v ms).lookup name = if name = key then some v else ms.lookup name := by
  induction ms with
  | nil => rw [insertMember, lookup_cons_eq]
  | cons m ms ih =>
    obtain ⟨k, x⟩ := m
    unfold insertMember
    split
    · next hkey =>
      obtain rfl : k = key := hkey
      rw [lookup_cons_eq, lookup_cons_eq]
      split <;> rfl
    · next hkey =>
      split
      · rw [lookup_cons_eq]
      · rw [lookup_cons_eq, lookup_cons_eq, ih]
        by_cases hk : name = k
        · have hne : name ≠ key := fun h => hkey (hk.symm.trans h)
          rw [if_pos hk, if_neg hne, if_pos hk]
        · rw [if_neg hk, if_neg hk]

/-- The last member of a name is found under it. -/
theorem get?_ofMembers (name : String) (ms : List (String × Json)) :
    (ofMembers ms).get? name = ms.reverse.lookup name := by
  rw [ofMembers, get?]
  induction ms using List.reverseRecOn with
  | nil => rfl
  | append_singleton ms m ih =>
    rw [List.foldl_append, List.foldl_cons, List.foldl_nil, lookup_insertMember, ih,
      List.reverse_append, List.reverse_singleton, List.singleton_append, lookup_cons_eq]

/-- The names of the members that are present are some of all names. -/
theorem names_present_sublist (ms : List (String × Option Json)) :
    ((ms.filterMap fun m => m.2.map (m.1, ·)).map (·.1)).Sublist (ms.map (·.1)) := by
  induction ms with
  | nil => exact List.Sublist.slnil
  | cons m ms ih =>
    obtain ⟨k, x⟩ := m
    cases x with
    | none => exact ih.cons k
    | some x => exact ih.cons_cons k

theorem lookup_present {ms : List (String × Option Json)} (h : (ms.map (·.1)).Nodup)
    (name : String) :
    (ms.filterMap fun m => m.2.map (m.1, ·)).lookup name = (ms.lookup name).join := by
  induction ms with
  | nil => rfl
  | cons m ms ih =>
    obtain ⟨k, x⟩ := m
    rw [List.map_cons, List.nodup_cons] at h
    rw [lookup_cons_eq]
    cases x with
    | none =>
      refine (ih h.2).trans ?_
      split
      · next hk =>
        -- a name that is absent here comes up nowhere else
        rw [hk, lookup_eq_none_of_notMem h.1]
        rfl
      · rfl
    | some x =>
      refine (lookup_cons_eq name k x _).trans ?_
      rw [ih h.2]
      split <;> rfl

/-- What is found under a name in the object without the members that are absent. -/
theorem get?_ofOptional {ms : List (String × Option Json)} (h : (ms.map (·.1)).Nodup)
    (name : String) : (ofOptional ms).get? name = (ms.lookup name).join := by
  have hnames := (names_present_sublist ms).nodup h
  rw [ofOptional, get?_ofMembers]
  exact (lookup_reverse hnames name).trans (lookup_present h name)

/-! ## Fields -/

/-- The fields of a record that is written as an object are found by their names. -/
theorem exists_record_ofOptional (names : List String) {ms : List (String × Option Json)}
    (h : (ms.map (·.1)).Nodup) :
    ∃ fields, record names (ofOptional ms) = some fields ∧
      ∀ name, fields.lookup name = (ms.lookup name).join := by
  obtain ⟨sorted, hs, -⟩ := exists_ofMembers_sorted (ms.filterMap fun m => m.2.map (m.1, ·))
  have hobject : ofOptional ms = .object sorted := hs
  refine ⟨sorted, by rw [hobject]; rfl, ?_⟩
  intro name
  rw [← get?_ofOptional h name, hobject, get?]

section Optional

variable {α : Type} {read : Json → Option α} {write : α → Json} {fields : List (String × Json)}
  {name : String}

theorem nullable_of_ne_null (h : v ≠ .null) : nullable read v = (read v).map some := by
  cases v with
  | null => exact absurd rfl h
  | _ => rfl

/-- A field that may be absent is read as it was written. -/
theorem optional_of_lookup {x : Option α} (h : fields.lookup name = x.map write)
    (hread : ∀ y, x = some y → write y ≠ .null ∧ read (write y) = some y) :
    optional read fields name = some x := by
  rw [optional, defaulted, h]
  cases x with
  | none => rfl
  | some y =>
    obtain ⟨hnull, hy⟩ := hread y rfl
    rw [Option.map_some]
    show nullable read (write y) = some (some y)
    rw [nullable_of_ne_null hnull, hy, Option.map_some]

/-- Where reading loses nothing, what was read is written as it was found, unless it was `null`. -/
theorem map_eq_some_iff_of_optional {x : Option α} (h : optional read fields name = some x)
    (exact : ∀ v y, read v = some y → write y = v) (v : Json) :
    x.map write = some v ↔ fields.lookup name = some v ∧ v ≠ .null := by
  rw [optional, defaulted] at h
  cases hf : fields.lookup name with
  | none =>
    rw [hf] at h
    obtain rfl := Option.some.inj h
    simp
  | some found =>
    rw [hf] at h
    replace h : nullable read found = some x := h
    by_cases hnull : found = .null
    · subst hnull
      obtain rfl : none = x := Option.some.inj h
      refine ⟨nofun, ?_⟩
      rintro ⟨he, hne⟩
      exact absurd (Option.some.inj he).symm hne
    · rw [nullable_of_ne_null hnull] at h
      obtain ⟨y, hy, rfl⟩ := Option.map_eq_some_iff.1 h
      rw [Option.map_some, exact found y hy]
      constructor
      · intro he
        exact ⟨he, Option.some.inj he ▸ hnull⟩
      · exact And.left

end Optional

end HamlServer.Json
