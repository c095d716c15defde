/-!
Lists of pairs as maps: the first pair of a key holds its value.

* `lookup_setKey`: a key has the value that was set last.
* `lookup_foldl_setKey`: pairs with different keys, set one by one, go before what was there.
-/

namespace HamlServer

/-- Gives a key its value, in the place that the key has or else at the end. -/
def setKey {α : Type} (key : String) (a : α) : List (String × α) → List (String × α)
  | [] => [(key, a)]
  | (k, b) :: rest => if k = key then (k, a) :: rest else (k, b) :: setKey key a rest

variable {α : Type}

theorem lookup_cons_eq (name k : String) (x : α) (xs : List (String × α)) :
    ((k, x) :: xs).lookup name = if name = k then some x else xs.lookup name := by
  rw [List.lookup_cons]
  by_cases h : name = k <;> simp [h, beq_eq_false_iff_ne.2]

theorem lookup_eq_none_of_notMem {name : String} {xs : List (String × α)}
    (h : name ∉ xs.map (·.1)) : xs.lookup name = none := by
  rw [List.lookup_eq_none_iff]
  intro m hm
  rw [bne_iff_ne]
  rintro rfl
  exact h (List.mem_map_of_mem hm)

/-- Of pairs with one key the last is the first from behind. -/
theorem lookup_reverse_cons (name k : String) (x : α) (xs : List (String × α)) :
    ((k, x) :: xs).reverse.lookup name =
      (xs.reverse.lookup name).or (if name = k then some x else none) := by
  rw [List.reverse_cons, List.lookup_append, lookup_cons_eq, List.lookup_nil]

/-- A key has the value that was set last, and the other keys keep theirs. -/
theorem lookup_setKey (key k : String) (a : α) (l : List (String × α)) :
    (setKey key a l).lookup k = if k = key then some a else l.lookup k := by
  induction l with
  | nil => by_cases h : k = key <;> simp [setKey, List.lookup_cons, h, beq_eq_false_iff_ne.2]
  | cons p rest ih =>
    obtain ⟨k', b⟩ := p
    by_cases h : k' = key
    · subst h
      by_cases hk : k = k' <;> simp [setKey, List.lookup_cons, hk, beq_eq_false_iff_ne.2]
    · by_cases hk : k = k'
      · subst hk
        simp [setKey, h]
      · simp [setKey, h, List.lookup_cons, beq_eq_false_iff_ne.2 hk, ih]

theorem mem_map_setKey {key k : String} {a : α} {l : List (String × α)} :
    k ∈ (setKey key a l).map (·.1) ↔ k = key ∨ k ∈ l.map (·.1) := by
  induction l with
  | nil => simp [setKey]
  | cons p rest ih =>
    obtain ⟨k', b⟩ := p
    unfold setKey
    split
    · next h => simp [h]
    · rw [List.map_cons, List.map_cons, List.mem_cons, List.mem_cons, ih]
      exact or_left_comm

/-- Keys stay different from each other. -/
theorem nodup_setKey {l : List (String × α)} (h : (l.map (·.1)).Nodup) (key : String) (a : α) :
    ((setKey key a l).map (·.1)).Nodup := by
  induction l with
  | nil => simp [setKey]
  | cons p rest ih =>
    obtain ⟨k, b⟩ := p
    rw [List.map_cons, List.nodup_cons] at h
    unfold setKey
    split
    · rw [List.map_cons, List.nodup_cons]
      exact h
    · next hk =>
      rw [List.map_cons, List.nodup_cons, mem_map_setKey]
      exact ⟨not_or_intro hk h.1, ih h.2⟩

/-- Pairs with different keys, set one by one, go before what was there. -/
theorem lookup_foldl_setKey {es : List (String × α)} (h : (es.map (·.1)).Nodup) (key : String)
    (l : List (String × α)) :
    (es.foldl (fun acc (k, a) => setKey k a acc) l).lookup key =
      (es.lookup key).or (l.lookup key) := by
  induction es generalizing l with
  | nil => rfl
  | cons p es ih =>
    obtain ⟨k, a⟩ := p
    rw [List.map_cons, List.nodup_cons] at h
    rw [List.foldl_cons, ih h.2, lookup_setKey, lookup_cons_eq]
    split
    · next hk =>
      rw [hk, lookup_eq_none_of_notMem h.1, Option.none_or, Option.some_or]
    · rfl

end HamlServer
