import HamlServer.Locate.PartialFile
import HamlServer.Proofs.Template.Call
import Mathlib.Data.List.Induction

/-!
# The files that a render call may mean

Every file that some way finds is among the results, under a path with the same components.  The
ranks of the ways lie so far apart that a file found by its path under the views comes before all
others, however near those are.

* `exists_mem_partialFiles`: no file that was found gets lost.
* `head?_partialFiles`: the file at the exact path comes first.
* `renderedName?_closedCall`: the name that a render call is read with.
-/

namespace HamlServer.Locate

open Text Template

variable {d : Directory} {views document file : Path} {found : List (Path × PartialWay)}
  {way : PartialWay} {hit : PartialHit} {name line : List Char}

/-! ## Hits -/

/-- A file found later is a hit of its own unless an earlier one has the same components. -/
theorem distinctHits_concat (document : Path) (found : List (Path × PartialWay)) (file : Path)
    (way : PartialWay) :
    distinctHits document (found ++ [(file, way)]) =
      if (distinctHits document found).any (fun h => h.file.same file) then
        distinctHits document found
      else distinctHits document found ++ [⟨file, hitRank document file way⟩] := by
  rw [distinctHits, distinctHits, List.foldl_append, List.foldl_cons, List.foldl_nil]

theorem same_self (p : Path) : p.same p = true := beq_self_eq_true p.components

/-- Every file found has a hit with the same components. -/
theorem exists_hit (h : (file, way) ∈ found) :
    ∃ hit ∈ distinctHits document found, hit.file.same file = true := by
  induction found using List.reverseRecOn with
  | nil => cases h
  | append_singleton found last ih =>
    rw [distinctHits_concat]
    rcases List.mem_append.1 h with h | h
    · obtain ⟨hit, hhit, hsame⟩ := ih h
      split
      · exact ⟨hit, hhit, hsame⟩
      · exact ⟨hit, List.mem_append_left _ hhit, hsame⟩
    · obtain rfl : (file, way) = last := List.mem_singleton.1 h
      split
      · next hany => exact List.any_eq_true.1 hany
      · exact ⟨_, List.mem_append_right _ List.mem_cons_self, same_self file⟩

/-- Every hit is a file found, with its rank, and the first with its components. -/
theorem exists_first_found (h : hit ∈ distinctHits document found) :
    ∃ before file way after, found = before ++ (file, way) :: after ∧
      (∀ earlier ∈ before, earlier.1.same file = false) ∧
      hit = ⟨file, hitRank document file way⟩ := by
  induction found using List.reverseRecOn with
  | nil => cases h
  | append_singleton found last ih =>
    have hearlier (h : hit ∈ distinctHits document found) :
        ∃ before file way after, found ++ [last] = before ++ (file, way) :: after ∧
          (∀ earlier ∈ before, earlier.1.same file = false) ∧
          hit = ⟨file, hitRank document file way⟩ := by
      obtain ⟨before, file, way, after, rfl, hbefore, hhit⟩ := ih h
      exact ⟨before, file, way, after ++ [last], by simp, hbefore, hhit⟩
    rw [distinctHits_concat] at h
    split at h
    · exact hearlier h
    · next hnew =>
      rcases List.mem_append.1 h with h | h
      · exact hearlier h
      · refine ⟨found, last.1, last.2, [], rfl, fun earlier hmem => ?_, List.mem_singleton.1 h⟩
        obtain ⟨other, hother, hsame⟩ :
            ∃ other ∈ distinctHits document found, other.file.same earlier.1 = true :=
          exists_hit hmem
        -- otherwise the hit of the earlier file had the components of the last one
        refine Bool.eq_false_iff.2 fun hlast => hnew (List.any_eq_true.2 ⟨other, hother, ?_⟩)
        exact beq_iff_eq.2 ((beq_iff_eq.1 hsame).trans (beq_iff_eq.1 hlast))

/-- Every hit is a file found, with its rank. -/
theorem exists_found (h : hit ∈ distinctHits document found) :
    ∃ file way, (file, way) ∈ found ∧ hit = ⟨file, hitRank document file way⟩ := by
  obtain ⟨before, file, way, after, rfl, -, hhit⟩ := exists_first_found h
  exact ⟨file, way, List.mem_append_right before List.mem_cons_self, hhit⟩

/-- No two hits have the same components. -/
theorem pairwise_distinctHits (document : Path) (found : List (Path × PartialWay)) :
    (distinctHits document found).Pairwise fun a b => a.file.same b.file = false := by
  induction found using List.reverseRecOn with
  | nil => exact List.Pairwise.nil
  | append_singleton found last ih =>
    rw [distinctHits_concat]
    split
    · exact ih
    · next hnew =>
      refine List.pairwise_append.2 ⟨ih, List.pairwise_singleton _ _, fun a ha b hb => ?_⟩
      rw [List.mem_singleton.1 hb]
      exact Bool.eq_false_iff.2 fun hsame => hnew (List.any_eq_true.2 ⟨a, ha, hsame⟩)

/-- The file found first is a hit. -/
theorem mem_distinctHits_cons (document file : Path) (way : PartialWay)
    (found : List (Path × PartialWay)) :
    ⟨file, hitRank document file way⟩ ∈ distinctHits document ((file, way) :: found) := by
  induction found using List.reverseRecOn with
  | nil => exact List.mem_cons_self
  | append_singleton found last ih =>
    rw [← List.cons_append, distinctHits_concat]
    split
    · exact ih
    · exact List.mem_append_left _ ih

/-! ## Ranks -/

theorem rank_le_hitRank (document file : Path) (way : PartialWay) :
    way.rank ≤ hitRank document file way := Nat.le_add_right _ _

theorem hitRank_le (document file : Path) (way : PartialWay) :
    hitRank document file way ≤ way.rank + 100 := Nat.add_le_add_left (Nat.sub_le _ _) _

/-- No other way makes up for an exact path. -/
theorem hitRank_lt_exact (h : way ≠ .exact) (document file : Path) :
    hitRank document file way < PartialWay.exact.rank := by
  have hle := hitRank_le document file way
  have hway : way.rank + 100 < PartialWay.exact.rank := by
    cases way with
    | exact => exact absurd rfl h
    | near => decide
    | shared => decide
    | anywhere => decide
  omega

/-- The hits in their order: the highest ranks first. -/
theorem pairwise_mergeSort_rank (hits : List PartialHit) :
    (hits.mergeSort fun a b => b.rank ≤ a.rank).Pairwise fun a b => b.rank ≤ a.rank := by
  have h : (hits.mergeSort fun a b => b.rank ≤ a.rank).Pairwise
      fun a b => decide (b.rank ≤ a.rank) = true := by
    apply List.pairwise_mergeSort
    · intro a b c hab hbc
      exact decide_eq_true (Nat.le_trans (of_decide_eq_true hbc) (of_decide_eq_true hab))
    · intro a b
      rw [Bool.or_eq_true, decide_eq_true_iff, decide_eq_true_iff]
      exact Nat.le_total b.rank a.rank
  exact h.imp fun hab => of_decide_eq_true hab

/-- A hit that outranks all others comes first. -/
theorem head?_mergeSort_rank {hits : List PartialHit} (hmem : hit ∈ hits)
    (hmax : ∀ other ∈ hits, hit.rank ≤ other.rank → other.file = hit.file) :
    ((hits.mergeSort fun a b => b.rank ≤ a.rank).map (·.file)).head? = some hit.file := by
  have hsorted := pairwise_mergeSort_rank hits
  have hsub : ∀ {x}, x ∈ (hits.mergeSort fun a b => b.rank ≤ a.rank) ↔ x ∈ hits :=
    List.mem_mergeSort
  cases hl : hits.mergeSort fun a b => b.rank ≤ a.rank with
  | nil =>
    rw [hl] at hsub
    exact absurd (hsub.2 hmem) List.not_mem_nil
  | cons top rest =>
    rw [hl] at hsorted hsub
    have htop : top ∈ hits := hsub.1 List.mem_cons_self
    have hle : hit.rank ≤ top.rank := by
      rcases List.mem_cons.1 (hsub.2 hmem) with rfl | hrest
      · exact Nat.le_refl _
      · exact (List.pairwise_cons.1 hsorted).1 hit hrest
    rw [List.map_cons, List.head?_cons, hmax top htop hle]

/-! ## Results -/

/-- No file that was found gets lost. -/
theorem exists_mem_partialFiles (hname : renderedName? line = some name)
    (hviews : d.isDirectory views = true)
    (h : (file, way) ∈ foundPartials d views document name) :
    ∃ other ∈ partialFiles d views document line, other.same file = true := by
  obtain ⟨hit, hhit, hsame⟩ : ∃ hit ∈ distinctHits document (foundPartials d views document name),
      hit.file.same file = true := exists_hit h
  refine ⟨hit.file, ?_, hsame⟩
  simp only [partialFiles, hname, if_pos hviews]
  exact List.mem_map.2 ⟨hit, List.mem_mergeSort.2 hhit, rfl⟩

/-- A file at the exact path is found first, and in that way no other is. -/
theorem foundPartials_of_exact (document : Path) {folder base : List Char}
    (hcut : cutAtLast '/' name = some (folder, base))
    (hexact : partialIn? d (views.child (String.ofList folder)) base = some file) :
    ∃ rest, foundPartials d views document name = (file, .exact) :: rest ∧
      ∀ found ∈ rest, found.2 ≠ .exact := by
  simp only [foundPartials, hcut, Option.bind_some, hexact, Option.map_some, Option.toList_some,
    List.cons_append, List.nil_append]
  refine ⟨_, rfl, fun found hfound => ?_⟩
  simp only [List.mem_append, Option.mem_toList, Option.map_eq_some_iff,
    List.mem_map] at hfound
  rcases hfound with (⟨_, -, rfl⟩ | ⟨_, -, rfl⟩) | ⟨_, -, rfl⟩
  · exact fun h => by cases h
  · exact fun h => by cases h
  · exact fun h => by cases h

/-- The file at the exact path comes first. -/
theorem head?_partialFiles (hname : renderedName? line = some name)
    (hviews : d.isDirectory views = true) {folder base : List Char}
    (hcut : cutAtLast '/' name = some (folder, base))
    (hexact : partialIn? d (views.child (String.ofList folder)) base = some file) :
    (partialFiles d views document line).head? = some file := by
  obtain ⟨rest, hfound, hrest⟩ := foundPartials_of_exact document hcut hexact
  have hmem := mem_distinctHits_cons document file .exact rest
  simp only [partialFiles, hname, if_pos hviews, hfound]
  refine head?_mergeSort_rank hmem fun other hother hle => ?_
  obtain ⟨otherFile, way, hin, rfl⟩ := exists_found hother
  rcases List.mem_cons.1 hin with heq | hin
  · exact congrArg Prod.fst heq
  · -- another way does not reach the rank of an exact path
    have hlt : hitRank document otherFile way < PartialWay.exact.rank :=
      hitRank_lt_exact (hrest _ hin) document otherFile
    have hge : PartialWay.exact.rank ≤ hitRank document file .exact :=
      rank_le_hitRank document file .exact
    exact absurd hle (Nat.not_le.2 (Nat.lt_of_lt_of_le hlt hge))

/-! ## Calls -/

/-- The name that a render call is read with. -/
theorem renderedName?_closedCall (hne : name ≠ []) (hquote : ∀ c ∈ name, isQuote c = false) :
    renderedName? (closedCall "render" name) = some name := by
  have hink : StartsInk ("render".toList ++ ' ' :: '\'' :: (name ++ ['\''])) :=
    StartsInk.append (startsInk_cons.2 rfl) _
  have houtput : findMatch outputRenderAt? (closedCall "render" name) = some () := by
    rw [closedCall_eq]
    refine findMatch_outputAt? hink ?_
    rw [dropStart?_eq_some_iff.2 rfl, Option.map_some]
  have hcall : renderedAt? ("render".toList ++ ' ' :: '\'' :: (name ++ ['\''])) = some name := by
    rw [renderedAt?, dropStart?_eq_some_iff.2 rfl]
    exact closedText?_quoted hne hquote
  have hname : findMatch renderedAt? (closedCall "render" name) = some name := by
    rw [closedCall_eq, findMatch_cons_of_none rfl, findMatch_cons_of_none rfl]
    exact findMatch_of_front hcall
  rw [renderedName?, houtput, Option.isSome_some, if_pos rfl, hname]

end HamlServer.Locate
