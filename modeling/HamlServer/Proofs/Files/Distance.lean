import HamlServer.Files.Path

/-!
# The distance of directories

The way from one directory to another goes up to the last place that both lie under and down again.
So distances are measured in a tree, where paths part once and never meet again.

* `exists_parting`: two lists of steps are a common beginning and what is left of each.
* `min_commonLength_le`: of three overlaps none is shorter than both others.
* `distance_metric`: distances are those of a metric on the steps of paths.
-/

namespace HamlServer.Path

variable {α : Type} [DecidableEq α]

/-! ## The common beginning -/

theorem commonLength_le_left (as bs : List α) : commonLength as bs ≤ as.length := by
  induction as generalizing bs with
  | nil => exact Nat.zero_le _
  | cons a as ih =>
    cases bs with
    | nil => exact Nat.zero_le _
    | cons b bs =>
      rw [commonLength]
      split
      · exact Nat.succ_le_succ (ih bs)
      · exact Nat.zero_le _

theorem commonLength_le_right (as bs : List α) : commonLength as bs ≤ bs.length := by
  rw [commonLength_comm]
  exact commonLength_le_left bs as

/-- Two lists are a common beginning and what is left of each, and these begin differently. -/
theorem exists_parting (as bs : List α) :
    ∃ common up down, as = common ++ up ∧ bs = common ++ down ∧
      common.length = commonLength as bs ∧ ∀ a ∈ up.head?, a ∉ down.head? := by
  induction as generalizing bs with
  | nil => exact ⟨[], [], bs, rfl, rfl, rfl, by simp⟩
  | cons a as ih =>
    cases bs with
    | nil => exact ⟨[], a :: as, [], rfl, rfl, rfl, by simp⟩
    | cons b bs =>
      rw [commonLength]
      by_cases hab : a = b
      · subst hab
        obtain ⟨common, up, down, has, hbs, hlength, hpart⟩ := ih bs
        refine ⟨a :: common, up, down, by rw [has, List.cons_append],
          by rw [hbs, List.cons_append], ?_, hpart⟩
        rw [if_pos rfl, List.length_cons, hlength]
      · refine ⟨[], a :: as, b :: bs, rfl, rfl, by rw [if_neg hab, List.length_nil], ?_⟩
        simpa using Ne.symm hab

/-- Lists that overlap all the way are the same. -/
theorem eq_of_commonLength_eq {as bs : List α} (ha : commonLength as bs = as.length)
    (hb : commonLength as bs = bs.length) : as = bs := by
  obtain ⟨common, up, down, has, hbs, hlength, -⟩ := exists_parting as bs
  have hup : up = [] := by
    apply List.eq_nil_of_length_eq_zero
    have htotal := congrArg List.length has
    rw [List.length_append] at htotal
    omega
  have hdown : down = [] := by
    apply List.eq_nil_of_length_eq_zero
    have htotal := congrArg List.length hbs
    rw [List.length_append] at htotal
    omega
  rw [has, hbs, hup, hdown]

theorem commonLength_self (as : List α) : commonLength as as = as.length := by
  induction as with
  | nil => rfl
  | cons a as ih => rw [commonLength, if_pos rfl, ih, List.length_cons]

/-- What two lists share with a third they share with each other, so that of three overlaps the
shortest comes up twice. -/
theorem min_commonLength_le (as bs cs : List α) :
    min (commonLength as bs) (commonLength bs cs) ≤ commonLength as cs := by
  induction bs generalizing as cs with
  | nil =>
    have hzero : commonLength as ([] : List α) = 0 := by cases as <;> rfl
    rw [hzero, Nat.zero_min]
    exact Nat.zero_le _
  | cons b bs ih =>
    cases as with
    | nil =>
      rw [show commonLength [] (b :: bs) = 0 from rfl, Nat.zero_min]
      exact Nat.zero_le _
    | cons a as =>
      cases cs with
      | nil =>
        rw [show commonLength (b :: bs) [] = 0 from rfl, Nat.min_zero]
        exact Nat.zero_le _
      | cons c cs =>
        have hrest := ih as cs
        by_cases hab : a = b
        · by_cases hbc : b = c
          · subst hab hbc
            simp only [commonLength, if_true]
            omega
          · simp only [commonLength, if_neg hbc, Nat.min_zero]
            exact Nat.zero_le _
        · simp only [commonLength, if_neg hab, Nat.zero_min]
          exact Nat.zero_le _

/-! ## Distances -/

theorem distance_eq_zero_iff {p q : Path} : p.distance q = 0 ↔ p.steps = q.steps := by
  have hleft := commonLength_le_left p.steps q.steps
  have hright := commonLength_le_right p.steps q.steps
  rw [distance]
  constructor
  · intro h
    exact eq_of_commonLength_eq (by omega) (by omega)
  · intro h
    rw [h, commonLength_self]
    omega

theorem distance_triangle (p q r : Path) : p.distance r ≤ p.distance q + q.distance r := by
  have hoverlap := min_commonLength_le p.steps q.steps r.steps
  have hpq := commonLength_le_left p.steps q.steps
  have hpq' := commonLength_le_right p.steps q.steps
  have hqr := commonLength_le_left q.steps r.steps
  have hqr' := commonLength_le_right q.steps r.steps
  simp only [distance]
  omega

/-- **Distances are those of a metric.**  They do not depend on the direction, only paths with the
same steps are at distance zero, no detour is shorter, and what is left behind a common beginning is
never taken from less than that. -/
theorem distance_metric (p q r : Path) :
    p.distance q = q.distance p ∧
    (p.distance q = 0 ↔ p.steps = q.steps) ∧
    p.distance r ≤ p.distance q + q.distance r ∧
    commonLength p.steps q.steps ≤ p.steps.length ∧
    commonLength p.steps q.steps ≤ q.steps.length ∧
    ∃ common up down, p.steps = common ++ up ∧ q.steps = common ++ down ∧
      (∀ a ∈ up.head?, a ∉ down.head?) ∧ p.distance q = up.length + down.length := by
  refine ⟨distance_comm p q, distance_eq_zero_iff, distance_triangle p q r,
    commonLength_le_left .., commonLength_le_right .., ?_⟩
  obtain ⟨common, up, down, hp, hq, hlength, hpart⟩ := exists_parting p.steps q.steps
  refine ⟨common, up, down, hp, hq, hpart, ?_⟩
  rw [distance, ← hlength]
  simp only [hp, hq, List.length_append, Nat.add_sub_cancel_left]

example : (ofString "/app/./views/admin/users").distance (ofString "/app/views/shared/") = 3 := by
  decide

end HamlServer.Path
