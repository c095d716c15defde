import HamlServer.Proofs.Documents.Eviction
import Mathlib.Data.List.Dedup

/-!
# The open documents are those used last

While no document is idle for too long, the open documents follow a list of identifiers with the
last used one in front.  A use moves its identifier to the front of that list, and only as many
identifiers stay in it as there is room for documents: that is `bump`.

* The list by itself.  `foldl_bump` says what a list becomes by some uses: the identifiers that were
  used, each once, up to its length.
* One operation.  `Ranked` ties the times of use to the list, and `ranked_perform` says that an
  operation moves the list as its use asks.  A lookup that finds nothing is no use, and neither is
  the change of findings.
* Any operations.  `recent_performAll` is the result, together with the texts.
-/

namespace HamlServer

namespace Documents

variable {s t : Documents} {now : Int} {u v text : String} {recent : List String}

/-! ## The last used ones -/

/-- The last used identifiers after one more use, with room for `m`. -/
def bump (m : Nat) (recent : List String) (uri : String) : List String :=
  (uri :: recent.erase uri).take m

theorem take_erase_take (l : List String) (u : String) (m : Nat) :
    ((l.take (m + 1)).erase u).take m = (l.erase u).take m := by
  induction l generalizing m with
  | nil => simp
  | cons a l ih =>
    rw [List.take_succ_cons]
    by_cases h : a = u
    · subst h
      rw [List.erase_cons_head, List.erase_cons_head, List.take_take, Nat.min_self]
    · rw [List.erase_cons_tail (by simpa using h), List.erase_cons_tail (by simpa using h)]
      cases m with
      | zero => rfl
      | succ m => rw [List.take_succ_cons, List.take_succ_cons, ih]

/-- What is beyond the room plays no part in a use. -/
theorem bump_take (m : Nat) (l : List String) (u : String) : bump m (l.take m) u = bump m l u := by
  cases m with
  | zero => rfl
  | succ m => rw [bump, bump, List.take_succ_cons, List.take_succ_cons, take_erase_take]

theorem dedup_concat (us : List String) (u : String) :
    (us ++ [u]).dedup = us.dedup.filter (· != u) ++ [u] := by
  induction us with
  | nil => rfl
  | cons a us ih =>
    rw [List.cons_append]
    by_cases ha : a ∈ us
    · rw [List.dedup_cons_of_mem ha, List.dedup_cons_of_mem (List.mem_append_left _ ha), ih]
    · rw [List.dedup_cons_of_notMem ha]
      by_cases hu : a = u
      · subst hu
        rw [List.dedup_cons_of_mem (by simp), ih, List.filter_cons_of_neg (by simp)]
      · rw [List.dedup_cons_of_notMem (by simp [ha, hu]), ih,
          List.filter_cons_of_pos (by simpa using hu), List.cons_append]

/-- Some uses from the start leave what was used, each once and the last one in front. -/
theorem foldl_bump (m : Nat) (us : List String) :
    us.foldl (bump m) [] = us.dedup.reverse.take m := by
  induction us using List.reverseRecOn with
  | nil => simp
  | append_singleton us u ih =>
    have hnodup : us.dedup.reverse.Nodup := List.nodup_reverse.2 (List.nodup_dedup us)
    rw [List.foldl_concat, ih, bump_take, bump, hnodup.erase_eq_filter, dedup_concat,
      List.reverse_append, ← List.filter_reverse]
    rfl

theorem bump_eq_cons {m : Nat} {l : List String} (h : (l.erase u).length < m) :
    bump m l u = u :: l.erase u := by
  rw [bump, List.take_of_length_le]
  rw [List.length_cons]
  omega

/-! ## One operation -/

namespace Operation

/-- The time that an operation reads from the clock, if it reads it. -/
def reading? : Operation → Option Int
  | .set now (some _) (some _) => some now
  | .get now _ => some now
  | .dropStale now => some now
  | _ => none

/-- The document that an operation gives a text, and that text. -/
def sets? : Operation → Option (String × String)
  | .set _ (some u) (some text) => some (u, text)
  | _ => none

/-- Whether an operation is there to close documents. -/
def closes : Operation → Bool
  | .delete _ | .clear | .dropStale _ => true
  | _ => false

end Operation

/-- The time of the last use of a document, if it is open. -/
def lastUse? (s : Documents) (uri : String) : Option Int := (s.find? uri).map (·.lastUse)

/-- The document that an operation uses: the one that gets a text, or the one that is looked up, if
it is open. -/
def use? (s : Documents) : Operation → Option String
  | .set _ (some u) (some _) => some u
  | .get _ u => if s.contains u then some u else none
  | _ => none

/-- The open documents are those of a list, the last used one in front. -/
structure Ranked (lastUse? : String → Option Int) (recent : List String) : Prop where
  nodup : recent.Nodup
  mem_iff : ∀ u, u ∈ recent ↔ (lastUse? u).isSome = true
  older : recent.Pairwise fun u v => ∀ x y, lastUse? u = some x → lastUse? v = some y → y < x

/-- A use that is later than all others moves its document to the front; of the other documents
those stay that stay in the list. -/
theorem Ranked.bump {f g : String → Option Int} {m : Nat} (hm : 0 < m)
    (h : Ranked f recent) (hnow : ∀ v x, f v = some x → x < now) (hself : g u = some now)
    (hother : ∀ v ≠ u, g v = if v ∈ bump m recent u then f v else none) :
    Ranked g (bump m recent u) := by
  obtain ⟨k, rfl⟩ : ∃ k, m = k + 1 := ⟨m - 1, by omega⟩
  have hsub : ((recent.erase u).take k).Sublist recent :=
    (List.take_sublist _ _).trans (List.erase_sublist)
  have hu : u ∉ (recent.erase u).take k := fun hmem =>
    h.nodup.not_mem_erase (List.mem_of_mem_take hmem)
  have hbump : Documents.bump (k + 1) recent u = u :: (recent.erase u).take k := by
    rw [Documents.bump, List.take_succ_cons]
  have hkept : ∀ v ∈ (recent.erase u).take k, g v = f v := by
    intro v hv
    have hvu : v ≠ u := fun he => hu (he ▸ hv)
    rw [hother v hvu, hbump, if_pos (List.mem_cons_of_mem u hv)]
  rw [hbump] at hother ⊢
  refine ⟨List.nodup_cons.2 ⟨hu, h.nodup.sublist hsub⟩, fun v => ?_, List.pairwise_cons.2 ⟨?_, ?_⟩⟩
  · by_cases hv : v = u
    · subst hv
      simp [hself]
    · rw [hother v hv]
      split
      · next hmem =>
        have htail : v ∈ (recent.erase u).take k := List.mem_of_ne_of_mem hv hmem
        exact iff_of_true hmem ((h.mem_iff v).1 (hsub.mem htail))
      · next hmem => exact iff_of_false hmem (by simp)
  · intro v hv x y hx hy
    rw [hself] at hx
    rw [hkept v hv] at hy
    obtain rfl := Option.some.inj hx
    exact hnow v y hy
  · refine (h.older.sublist hsub).imp_of_mem fun {v w} hv hw hlt x y hx hy => ?_
    rw [hkept v hv] at hx
    rw [hkept w hw] at hy
    exact hlt x y hx hy

theorem Ranked.perm (h : Ranked s.lastUse? recent) (hd : s.Distinct) :
    (s.entries.map (·.uri)).Perm recent := by
  refine (List.perm_ext_iff_of_nodup hd h.nodup).2 fun u => ?_
  rw [h.mem_iff, lastUse?, Option.isSome_map, ← Option.ne_none_iff_isSome, ne_eq,
    find?_eq_none_iff, not_not]

theorem Ranked.length_eq (h : Ranked s.lastUse? recent) (hd : s.Distinct) :
    recent.length = s.size := by
  have hlen := (h.perm hd).length_eq
  rw [List.length_map] at hlen
  exact hlen.symm

/-- Where the list stays within its bound, a use closes no document. -/
theorem Ranked.bump_of_room {f g : String → Option Int} {m : Nat} (h : Ranked f recent)
    (hnow : ∀ v x, f v = some x → x < now) (hself : g u = some now)
    (hother : ∀ v ≠ u, g v = f v) (hroom : (recent.erase u).length < m) :
    Ranked g (Documents.bump m recent u) := by
  refine h.bump (Nat.zero_lt_of_lt hroom) hnow hself fun v hv => ?_
  have hmem : v ∈ Documents.bump m recent u ↔ v ∈ recent := by
    rw [bump_eq_cons hroom, List.mem_cons, List.mem_erase_of_ne hv]
    simp [hv]
  rw [hother v hv]
  split
  · rfl
  · next hout =>
    rw [hmem, h.mem_iff] at hout
    simpa using hout

/-- Where the list is full, the use of a new document closes the last one of it. -/
theorem Ranked.bump_of_full {f g : String → Option Int} {front : List String} {z : String}
    (h : Ranked f (front ++ [z])) (hu : u ∉ front ++ [z]) (hnow : ∀ v x, f v = some x → x < now)
    (hself : g u = some now) (hother : ∀ v ≠ u, g v = if v = z then none else f v) :
    Ranked g (Documents.bump (front ++ [z]).length (front ++ [z]) u) := by
  have hz : z ∉ front := fun hmem =>
    (List.nodup_append.1 h.nodup).2.2 z hmem z (List.mem_singleton_self z) rfl
  have hbump : Documents.bump (front ++ [z]).length (front ++ [z]) u = u :: front := by
    rw [Documents.bump, List.erase_of_not_mem hu, List.length_append, List.length_singleton,
      List.take_succ_cons, List.take_left]
  refine h.bump (by simp) hnow hself fun v hv => ?_
  rw [hother v hv, hbump]
  by_cases hvz : v = z
  · subst hvz
    rw [if_pos rfl, if_neg (by simp [hv, hz])]
  · rw [if_neg hvz]
    split
    · rfl
    · next hout =>
      have hnone : v ∉ front ++ [z] := by
        rw [List.mem_append, List.mem_singleton]
        rintro (hmem | he)
        · exact hout (List.mem_cons_of_mem u hmem)
        · exact hvz he
      rw [h.mem_iff] at hnone
      simpa using hnone

/-- Of documents that are ranked, the one that was not used for the longest time is the last. -/
theorem Ranked.eq_last_of_oldest {front : List String} {z : String}
    (h : Ranked s.lastUse? (front ++ [z])) (hd : s.Distinct) {e : OpenDocument}
    (he : e ∈ s.entries) (hleast : ∀ e' ∈ s.entries, e.lastUse ≤ e'.lastUse) : e.uri = z := by
  have hf : s.lastUse? e.uri = some e.lastUse := by
    rw [lastUse?, (find?_eq_some_iff hd).2 ⟨he, rfl⟩]
    rfl
  have hmem : e.uri ∈ front ++ [z] := (h.mem_iff e.uri).2 (by rw [hf]; rfl)
  rcases List.mem_append.1 hmem with hfront | hz
  · exfalso
    obtain ⟨y, hy⟩ := Option.isSome_iff_exists.1 ((h.mem_iff z).1 (by simp))
    obtain ⟨e', he', rfl⟩ := Option.map_eq_some_iff.1 hy
    have hlt := (List.pairwise_append.1 h.older).2.2 e.uri hfront z (List.mem_singleton_self z) _ _
      hf hy
    have hle := hleast e' (mem_of_find? he')
    omega
  · exact List.mem_singleton.1 hz

theorem Ranked.mem_iff_contains (h : Ranked s.lastUse? recent) :
    u ∈ recent ↔ s.contains u = true := by
  rw [h.mem_iff, lastUse?, Option.isSome_map, contains]

/-- Opening a document, or giving it a new text, moves it to the front of the last used ones. -/
theorem ranked_set (h : Ranked s.lastUse? recent) (hk : s.WellKept)
    (hnow : ∀ v x, s.lastUse? v = some x → x < now)
    (hidle : ∀ e ∈ s.entries, s.isStale now e = false) :
    Ranked (s.set now u text).lastUse? (bump s.capacity recent u) := by
  obtain ⟨hfound, hother⟩ := leaves_set hk now u text
  have hself : (s.set now u text).lastUse? u = some now := by
    rw [lastUse?, hfound]
    rfl
  have hsize := h.length_eq hk.distinct
  have hle := hk.le
  have hpos := hk.pos
  by_cases hroom : s.contains u = true ∨ s.size < s.capacity
  · rw [if_pos hroom] at hother
    refine h.bump_of_room hnow hself (fun v hv => by rw [lastUse?, hother v hv, lastUse?]) ?_
    rcases hroom with hopen | hroom
    · have hmem := h.mem_iff_contains.2 hopen
      have := List.length_erase_of_mem hmem
      have := List.length_pos_of_mem hmem
      omega
    · have := (List.erase_sublist (a := u) (l := recent)).length_le
      omega
  · -- there is no room, so the document goes that was not used for the longest time
    have hstale : ¬ ∃ e ∈ s.entries, s.ttl < now - e.lastUse := by
      rintro ⟨e, he, hlt⟩
      simpa [isStale, hlt] using hidle e he
    rw [if_neg hroom, if_neg hstale] at hother
    obtain ⟨e, he, hleast, hother⟩ := hother
    have hnew : u ∉ recent := fun hmem => hroom (Or.inl (h.mem_iff_contains.1 hmem))
    have hfull : s.capacity = recent.length := by
      have : ¬ s.size < s.capacity := fun hlt => hroom (Or.inr hlt)
      omega
    rcases List.eq_nil_or_concat recent with rfl | ⟨front, z, rfl⟩
    · rw [List.length_nil] at hfull
      omega
    · rw [List.concat_eq_append] at *
      obtain rfl := h.eq_last_of_oldest hk.distinct he hleast
      rw [hfull]
      refine h.bump_of_full hnew hnow hself fun v hv => ?_
      rw [lastUse?, hother v hv, lastUse?]
      split <;> rfl

/-- A lookup moves the document that it finds to the front. -/
theorem ranked_get (h : Ranked s.lastUse? recent) (hk : s.WellKept) {now : Int} {u : String}
    (hnow : ∀ v x, s.lastUse? v = some x → x < now) :
    Ranked (s.perform (.get now u)).lastUse?
      ((s.use? (.get now u)).toList.foldl (bump s.capacity) recent) := by
  obtain ⟨hself, hother⟩ := leaves_perform hk (.get now u)
  by_cases hopen : s.contains u = true
  · obtain ⟨e, he⟩ := Option.isSome_iff_exists.1 hopen
    have hmem := h.mem_iff_contains.2 hopen
    have hsize := h.length_eq hk.distinct
    have hle := hk.le
    rw [use?, if_pos hopen]
    refine h.bump_of_room hnow (by rw [lastUse?, hself, he]; rfl)
      (fun v hv => by rw [lastUse?, hother v hv, lastUse?]) ?_
    have := List.length_erase_of_mem hmem
    have := List.length_pos_of_mem hmem
    omega
  · -- a lookup that finds nothing leaves all times of use
    have hsame : (s.perform (.get now u)).lastUse? = s.lastUse? := by
      funext v
      by_cases hv : v = u
      · have hnone : s.find? u = none := by
          rwa [contains, Option.not_isSome_iff_eq_none] at hopen
        rw [hv, lastUse?, hself, lastUse?, hnone]
        rfl
      · rw [lastUse?, hother v hv, lastUse?]
    rw [hsame, use?, if_neg hopen]
    exact h

/-- One operation, at a time when no document is idle for too long, moves the list as its use
asks. -/
theorem ranked_perform (h : Ranked s.lastUse? recent) (hk : s.WellKept) {op : Operation}
    (hop : op.closes = false)
    (hnow : ∀ now, op.reading? = some now → ∀ v x, s.lastUse? v = some x → x < now)
    (hidle : ∀ now, op.reading? = some now → ∀ e ∈ s.entries, s.isStale now e = false) :
    Ranked (s.perform op).lastUse? ((s.use? op).toList.foldl (bump s.capacity) recent) := by
  cases op with
  | set now uri content =>
    rcases uri with _ | u
    · exact h
    · rcases content with _ | text
      · exact h
      · exact ranked_set h hk (hnow now rfl) (hidle now rfl)
  | get now u => exact ranked_get h hk (hnow now rfl)
  | setDiagnostics u ds =>
    obtain ⟨hself, hother⟩ := leaves_perform hk (.setDiagnostics u ds)
    have hsame : (s.perform (.setDiagnostics u ds)).lastUse? = s.lastUse? := by
      funext v
      by_cases hv : v = u
      · rw [hv, lastUse?, hself, Option.map_map]
        rfl
      · rw [lastUse?, hother v hv, lastUse?]
    rw [hsame]
    exact h
  | delete | clear | dropStale => cases hop

/-- Where a document comes from that is open after an operation: the operation gave it its text, or
it was open before with the text that it has. -/
inductive Origin (s : Documents) (op : Operation) (v : String) (e : OpenDocument) : Prop where
  | given (sets : op.sets? = some (v, e.content)) (reading : op.reading? = some e.lastUse)
  | kept (sets : ∀ text, op.sets? ≠ some (v, text)) (d : OpenDocument) (found : s.find? v = some d)
      (text : d.content = e.content)
      (lastUse : d.lastUse = e.lastUse ∨ op.reading? = some e.lastUse)

/-- A document that is open after another one was given its text was open before. -/
theorem find?_of_set_other (hk : s.WellKept) {now : Int} {u text : String} {e : OpenDocument}
    (hv : v ≠ u) (he : (s.set now u text).find? v = some e) : s.find? v = some e := by
  obtain ⟨_, hother⟩ := leaves_perform hk (.set now (some u) (some text))
  split at hother
  · rw [← hother v hv]
    exact he
  · split at hother
    · exact (Option.filter_eq_some_iff.1 ((hother v hv).symm.trans he)).1
    · obtain ⟨oldest, _, _, hother⟩ := hother
      have he := (hother v hv).symm.trans he
      split at he
      · cases he
      · exact he

theorem origin_of_perform (hk : s.WellKept) (op : Operation) {e : OpenDocument}
    (he : (s.perform op).find? v = some e) : Origin s op v e := by
  have hop := leaves_perform hk op
  have same (hs : ∀ text, op.sets? ≠ some (v, text)) (hf : s.find? v = some e) : Origin s op v e :=
    .kept hs e hf rfl (Or.inl rfl)
  cases op with
  | set now uri content =>
    rcases uri with _ | u
    · exact same (by simp [Operation.sets?]) he
    · rcases content with _ | text
      · exact same (by simp [Operation.sets?]) he
      · by_cases hv : v = u
        · subst hv
          obtain ⟨hself, _⟩ := hop
          rw [he] at hself
          obtain rfl := Option.some.inj hself
          exact .given rfl rfl
        · exact same (by simp [Operation.sets?, Ne.symm hv]) (find?_of_set_other hk hv he)
  | get now u =>
    obtain ⟨hself, hother⟩ := hop
    by_cases hv : v = u
    · subst hv
      rw [hself] at he
      obtain ⟨d, hd, rfl⟩ := Option.map_eq_some_iff.1 he
      exact .kept (by simp [Operation.sets?]) d hd rfl (Or.inr rfl)
    · exact same (by simp [Operation.sets?]) (by rw [← hother v hv, he])
  | setDiagnostics u ds =>
    obtain ⟨hself, hother⟩ := hop
    by_cases hv : v = u
    · subst hv
      rw [hself] at he
      obtain ⟨d, hd, rfl⟩ := Option.map_eq_some_iff.1 he
      exact .kept (by simp [Operation.sets?]) d hd rfl (Or.inl rfl)
    · exact same (by simp [Operation.sets?]) (by rw [← hother v hv, he])
  | delete u =>
    obtain ⟨hself, hother⟩ := hop
    by_cases hv : v = u
    · subst hv
      rw [hself] at he
      cases he
    · exact same (by simp [Operation.sets?]) (by rw [← hother v hv, he])
  | clear =>
    rw [hop v] at he
    cases he
  | dropStale now =>
    rw [hop.1 v] at he
    exact same (by simp [Operation.sets?]) (Option.filter_eq_some_iff.1 he).1

/-! ## Any operations -/

/-- The documents that operations use, in the order of their uses. -/
def uses (s : Documents) : List Operation → List String
  | [] => []
  | op :: ops => (s.use? op).toList ++ uses (s.perform op) ops

/-- No document is idle for too long at a time that an operation reads. -/
def NeverIdle (s : Documents) : List Operation → Prop
  | [] => True
  | op :: ops =>
    (∀ now ∈ op.reading?, ∀ e ∈ s.entries, s.isStale now e = false) ∧
      NeverIdle (s.perform op) ops

instance decidableNeverIdle (s : Documents) : (ops : List Operation) → Decidable (s.NeverIdle ops)
  | [] => .isTrue trivial
  | op :: ops =>
    have := decidableNeverIdle (s.perform op) ops
    inferInstanceAs (Decidable (_ ∧ _))

/-- The documents that operations give texts. -/
def textUris (ops : List Operation) : List String := (ops.filterMap Operation.sets?).map Prod.fst

/-- The latest text that operations give a document. -/
def lastText? (ops : List Operation) (uri : String) : Option String :=
  ((ops.filterMap Operation.sets?).filter (·.1 = uri)).getLast?.map Prod.snd

theorem performAll_cons (s : Documents) (op : Operation) (ops : List Operation) :
    s.performAll (op :: ops) = (s.perform op).performAll ops := rfl

theorem capacity_perform (s : Documents) (op : Operation) :
    (s.perform op).capacity = s.capacity := by
  obtain ⟨entries, he⟩ := exists_perform_eq s op
  rw [he]

theorem ranked_performAll (ops : List Operation) (h : Ranked s.lastUse? recent) (hk : s.WellKept)
    (hops : ∀ op ∈ ops, op.closes = false)
    (hclock : (ops.filterMap Operation.reading?).Pairwise (· < ·))
    (hlater : ∀ now ∈ ops.filterMap Operation.reading?, ∀ v x, s.lastUse? v = some x → x < now)
    (hidle : s.NeverIdle ops) :
    Ranked (s.performAll ops).lastUse? ((s.uses ops).foldl (bump s.capacity) recent) := by
  induction ops generalizing s recent with
  | nil => exact h
  | cons op ops ih =>
    have hnow : ∀ now, op.reading? = some now → ∀ v x, s.lastUse? v = some x → x < now :=
      fun now hr => hlater now (List.mem_filterMap.2 ⟨op, by simp, hr⟩)
    have hstep := ranked_perform h hk (hops op (by simp)) hnow hidle.1
    rw [performAll_cons, uses, List.foldl_append, ← capacity_perform s op]
    rw [← capacity_perform s op] at hstep
    refine ih hstep (wellKept_perform hk op) (fun op' hop' => hops op' (by simp [hop'])) ?_ ?_
      hidle.2
    · exact hclock.sublist ((List.sublist_cons_self op ops).filterMap _)
    · -- a time of use is an earlier one or the one that was read just now
      intro later hlate v x hx
      obtain ⟨e, he, rfl⟩ := Option.map_eq_some_iff.1 hx
      have hread : op.reading? = some e.lastUse → e.lastUse < later := by
        intro hr
        rw [List.filterMap_cons_some hr] at hclock
        exact (List.pairwise_cons.1 hclock).1 later hlate
      cases origin_of_perform hk op he with
      | given _ hr => exact hread hr
      | kept _ d hd _ hu =>
        rcases hu with hu | hr
        · have hmem : later ∈ (op :: ops).filterMap Operation.reading? :=
            ((List.sublist_cons_self op ops).filterMap _).mem hlate
          exact hu ▸ hlater later hmem v d.lastUse (by rw [lastUse?, hd]; rfl)
        · exact hread hr

theorem mem_textUris_cons {op : Operation} {ops : List Operation} :
    u ∈ textUris (op :: ops) ↔ (∃ text, op.sets? = some (u, text)) ∨ u ∈ textUris ops := by
  simp only [textUris, List.mem_map, List.mem_filterMap, List.mem_cons, Prod.exists]
  constructor
  · rintro ⟨v, text, ⟨op', rfl | hop', hs⟩, rfl⟩
    · exact Or.inl ⟨text, hs⟩
    · exact Or.inr ⟨v, text, ⟨op', hop', hs⟩, rfl⟩
  · rintro (⟨text, hs⟩ | ⟨v, text, ⟨op', hop', hs⟩, rfl⟩)
    · exact ⟨u, text, ⟨op, Or.inl rfl, hs⟩, rfl⟩
    · exact ⟨v, text, ⟨op', Or.inr hop', hs⟩, rfl⟩

theorem use?_of_sets? (s : Documents) {op : Operation} (h : op.sets? = some (u, text)) :
    s.use? op = some u := by
  cases op with
  | set now uri content =>
    rcases uri with _ | v <;> rcases content with _ | text <;> simp_all [Operation.sets?, use?]
  | _ => cases h

/-- A document that is used gets a text or is open. -/
theorem sets?_or_contains_of_use? {op : Operation} (h : s.use? op = some u) :
    (∃ text, op.sets? = some (u, text)) ∨ s.contains u = true := by
  cases op with
  | set now uri content =>
    rcases uri with _ | v <;> rcases content with _ | text <;> cases h
    exact Or.inl ⟨text, rfl⟩
  | get now v =>
    rw [use?] at h
    split at h
    · next hopen =>
      obtain rfl := Option.some.inj h
      exact Or.inr hopen
    · cases h
  | _ => cases h

theorem textUris_subset_uses (s : Documents) (ops : List Operation) :
    textUris ops ⊆ s.uses ops := by
  induction ops generalizing s with
  | nil => exact List.nil_subset _
  | cons op ops ih =>
    intro u hu
    rw [uses, List.mem_append, Option.mem_toList]
    rcases mem_textUris_cons.1 hu with ⟨text, hs⟩ | hu
    · exact Or.inl (use?_of_sets? s hs)
    · exact Or.inr (ih (s.perform op) hu)

theorem mem_textUris_of_mem_uses (hk : s.WellKept) (ops : List Operation) (hu : u ∈ s.uses ops) :
    u ∈ textUris ops ∨ s.contains u = true := by
  induction ops generalizing s with
  | nil => cases hu
  | cons op ops ih =>
    rw [mem_textUris_cons]
    rcases List.mem_append.1 hu with hu | hu
    · rcases sets?_or_contains_of_use? (Option.mem_toList.1 hu) with hs | hopen
      · exact Or.inl (Or.inl hs)
      · exact Or.inr hopen
    · rcases ih (wellKept_perform hk op) hu with hu | hopen
      · exact Or.inl (Or.inr hu)
      · obtain ⟨e, he⟩ := Option.isSome_iff_exists.1 hopen
        cases origin_of_perform hk op he with
        | given hs _ => exact Or.inl (Or.inl ⟨_, hs⟩)
        | kept _ d hd => exact Or.inr (by rw [contains, hd]; rfl)

/-- From the start, as many documents are used as get texts. -/
theorem length_dedup_uses (capacity ttl : Nat) (ops : List Operation) :
    ((ofCapacity capacity ttl).uses ops).dedup.length = (textUris ops).dedup.length := by
  refine List.Perm.length_eq ?_
  refine (List.perm_ext_iff_of_nodup (List.nodup_dedup _) (List.nodup_dedup _)).2 fun u => ?_
  rw [List.mem_dedup, List.mem_dedup]
  refine ⟨fun hu => ?_, fun hu => textUris_subset_uses _ ops hu⟩
  rcases mem_textUris_of_mem_uses (wellKept_ofCapacity capacity ttl) ops hu with hu | hopen
  · exact hu
  · cases hopen

theorem lastText?_concat (ops : List Operation) (op : Operation) (uri : String) :
    lastText? (ops ++ [op]) uri =
      ((op.sets?.filter (·.1 = uri)).map Prod.snd).or (lastText? ops uri) := by
  cases hs : op.sets? with
  | none => simp [lastText?, hs]
  | some p =>
    by_cases hp : p.1 = uri
    · rw [Option.filter_some_pos (by simpa using hp)]
      simp [lastText?, hs, hp]
    · rw [Option.filter_some_neg (by simpa using hp)]
      simp [lastText?, hs, hp]

/-- An open document has the latest text that it was given. -/
theorem lastText?_of_find? (capacity ttl : Nat) (ops : List Operation) {e : OpenDocument}
    (he : ((ofCapacity capacity ttl).performAll ops).find? v = some e) :
    lastText? ops v = some e.content := by
  induction ops using List.reverseRecOn generalizing e with
  | nil => cases he
  | append_singleton ops op ih =>
    rw [performAll, List.foldl_concat] at he
    rw [lastText?_concat]
    have hk := (wellKept_performAll ops (wellKept_ofCapacity capacity ttl)).1
    cases origin_of_perform hk op he with
    | given hs _ => simp [hs]
    | kept hs d hd ht =>
      have hother : op.sets?.filter (·.1 = v) = none := by
        rw [Option.filter_eq_none_iff]
        rintro ⟨u, text⟩ hu
        have hne : u ≠ v := by
          rintro rfl
          exact hs text hu
        simpa using hne
      rw [hother, Option.map_none, Option.none_or, ih hd, ht]

/-- **The open documents are those used last.**  Operations that close no documents, at times that
only grow and at which none is idle for too long, leave open the documents that were used last: as
many of those that were given texts as there is room for.  Each has the latest text that it was
given. -/
theorem recent_performAll (capacity ttl : Nat) (ops : List Operation)
    (hops : ∀ op ∈ ops, op.closes = false)
    (hclock : (ops.filterMap Operation.reading?).Pairwise (· < ·))
    (hidle : (ofCapacity capacity ttl).NeverIdle ops) :
    let start := ofCapacity capacity ttl
    let s := start.performAll ops
    let n := min (max capacity 1) (textUris ops).dedup.length
    s.size = n ∧ (s.entries.map (·.uri)).Perm ((start.uses ops).dedup.reverse.take n) ∧
      ∀ e ∈ s.entries, lastText? ops e.uri = some e.content := by
  intro start s n
  have hk : start.WellKept := wellKept_ofCapacity capacity ttl
  have hd : s.Distinct := (wellKept_performAll ops hk).1.distinct
  have hstart : Ranked start.lastUse? [] := by
    refine ⟨List.nodup_nil, fun u => ?_, List.Pairwise.nil⟩
    simp [start, lastUse?, ofCapacity, find?]
  have h : Ranked s.lastUse? ((start.uses ops).dedup.reverse.take start.capacity) := by
    rw [← foldl_bump]
    refine ranked_performAll ops hstart hk hops hclock ?_ hidle
    rintro now _ v x hx
    cases hx
  have hcapacity : start.capacity = max capacity 1 := Nat.max_comm 1 capacity
  have hlen : (start.uses ops).dedup.reverse.length = (textUris ops).dedup.length := by
    rw [List.length_reverse, length_dedup_uses]
  have htake : (start.uses ops).dedup.reverse.take start.capacity =
      (start.uses ops).dedup.reverse.take n := by
    rw [List.take_eq_take_iff, hlen, hcapacity]
    omega
  refine ⟨?_, htake ▸ h.perm hd, fun e he => ?_⟩
  · rw [← h.length_eq hd, List.length_take, hlen, hcapacity]
  · exact lastText?_of_find? capacity ttl ops ((find?_eq_some_iff hd).2 ⟨he, rfl⟩)

/-- With room for two, looking up the first document makes the second one go; what is looked up and
not found, and what the linter finds, makes no difference. -/
theorem recent_performAll_three :
    let ops : List Operation := [.set 1 (some "a") (some "%p"), .set 2 (some "b") (some "%b"),
      .get 3 "a", .get 4 "z", .setDiagnostics "b" [], .set 5 (some "c") (some "%i"),
      .set 6 (some "c") (some "%em")]
    let s := (ofCapacity 2 60).performAll ops
    (∀ op ∈ ops, op.closes = false) ∧ (ops.filterMap Operation.reading?).Pairwise (· < ·) ∧
      (ofCapacity 2 60).NeverIdle ops ∧ s.size = 2 ∧ (s.entries.map (·.uri)).Perm ["c", "a"] ∧
      ∀ e ∈ s.entries, lastText? ops e.uri = some e.content := by
  intro ops s
  have hops : ∀ op ∈ ops, op.closes = false := by decide
  have hclock : (ops.filterMap Operation.reading?).Pairwise (· < ·) := by decide
  have hidle : (ofCapacity 2 60).NeverIdle ops := by decide
  obtain ⟨hsize, hperm, htext⟩ := recent_performAll 2 60 ops hops hclock hidle
  exact ⟨hops, hclock, hidle, hsize, hperm, htext⟩

end Documents

end HamlServer
