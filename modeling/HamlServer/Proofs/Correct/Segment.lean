import HamlServer.Proofs.Correct.Body
import HamlServer.Proofs.Text.Word
import Mathlib.Data.List.TakeWhile

/-!
# Classes and ids

A tag starts with segments: a mark and a name each.  A segment ends where its name does, so what
stands behind a tag does not change how its segments are read, as long as it can neither go on with
a name nor start a segment.

* `classAndId?_eq_some_iff`: a class and an id are found in either order, with the rest of the line.
* `orderSegments_idempotent`
* `orderSegments_append`: what stands behind a tag does not change how its segments are ordered.
-/

namespace HamlServer.Correct

open Text

variable {mark c : Char} {s r seg name rest : List Char}

/-! ## Segments -/

/-- The marks that segments start with. -/
def marks : List Char := ['.', '#', '%']

/-- A text that does not go on with a name. -/
def EndsName (s : List Char) : Prop := ∀ c ∈ s.head?, isNameChar c = false

/-- What follows a tag: neither more of a name nor another segment. -/
def EndsTag (s : List Char) : Prop := EndsName s ∧ ∀ c ∈ s.head?, c ∉ marks

/-- A mark and a name. -/
def IsSegment (mark : Char) (seg : List Char) : Prop :=
  ∃ name, name ≠ [] ∧ (∀ c ∈ name, isNameChar c = true) ∧ seg = mark :: name

theorem IsSegment.startsWith (h : IsSegment mark seg) : StartsWith [mark] seg := by
  obtain ⟨name, -, -, rfl⟩ := h
  exact ⟨mark, List.mem_singleton_self _, name, rfl⟩

theorem IsSegment.endsInk (h : IsSegment mark seg) : EndsInk seg := by
  obtain ⟨name, hne, hname, rfl⟩ := h
  exact (endsInk_of_forall hne fun c hc => isBlank_of_isNameChar (hname c hc)).append [mark]

/-- A segment goes as far as its name can. -/
theorem segment?_eq_some_iff :
    segment? mark s = some (seg, r) ↔ IsSegment mark seg ∧ EndsName r ∧ s = seg ++ r := by
  constructor
  · intro h
    cases s with
    | nil => cases h
    | cons c s =>
      rw [segment?] at h
      split at h
      · next hc =>
        obtain ⟨rfl, rfl⟩ := Prod.mk.inj (Option.some.inj h)
        rw [drop_length_takeWhile]
        refine ⟨⟨_, hc.2, List.all_eq_true.1 List.all_takeWhile, by rw [hc.1]⟩,
          dropWhile_stop isNameChar s, ?_⟩
        rw [List.cons_append, List.takeWhile_append_dropWhile]
      · cases h
  · rintro ⟨⟨name, hne, hname, rfl⟩, hr, rfl⟩
    have hrun : (name ++ r).takeWhile isNameChar = name := by
      rw [takeWhile_append_of_stop hr, List.takeWhile_eq_self_iff.2 hname]
    rw [List.cons_append, segment?, hrun, if_pos ⟨rfl, hne⟩, List.drop_left]

theorem segment?_of_startsWith {marks : List Char} (h : StartsWith marks s) (hm : mark ∉ marks) :
    segment? mark s = none := by
  obtain ⟨c, hc, r, rfl⟩ := h
  rw [segment?]
  exact if_neg fun (he : c = mark ∧ _) => hm (he.1 ▸ hc)

/-- What follows a tag does not change its segments. -/
theorem segment?_append (hr : EndsName r) (hmark : ∀ c ∈ r.head?, c ≠ mark) (s : List Char) :
    segment? mark (s ++ r) = (segment? mark s).map fun p => (p.1, p.2 ++ r) := by
  cases s with
  | nil =>
    cases r with
    | nil => rfl
    | cons c r =>
      exact segment?_of_startsWith ⟨c, List.mem_singleton_self c, r, rfl⟩
        fun hc => hmark c rfl (List.mem_singleton.1 hc).symm
  | cons c s =>
    rw [List.cons_append, segment?, segment?, takeWhile_append_of_stop hr,
      List.drop_append_of_le_length (List.takeWhile_sublist _).length_le]
    split <;> rfl

/-! ## Classes and ids -/

variable {first second cls id : List Char} {style : String}

/-- Two segments with given marks at the front of a text, and what follows. -/
def pair? (a b : Char) (s : List Char) : Option (List Char × List Char × List Char) := do
  let (first, r) ← segment? a s
  let (second, r) ← segment? b r
  return (first, second, r)

theorem pair?_eq_some_iff {a b : Char} (hb : isNameChar b = false) :
    pair? a b s = some (first, second, rest) ↔
      IsSegment a first ∧ IsSegment b second ∧ EndsName rest ∧ s = first ++ (second ++ rest) := by
  have hread : pair? a b s = some (first, second, rest) ↔
      ∃ r, segment? a s = some (first, r) ∧ segment? b r = some (second, rest) := by
    rw [pair?]
    cases segment? a s with
    | none => simp
    | some p => cases hq : segment? b p.2 <;> simp [hq, Prod.ext_iff]
  rw [hread]
  constructor
  · rintro ⟨r, hfirst, hsecond⟩
    obtain ⟨hx, -, rfl⟩ := segment?_eq_some_iff.1 hfirst
    obtain ⟨hy, hrest, rfl⟩ := segment?_eq_some_iff.1 hsecond
    exact ⟨hx, hy, hrest, rfl⟩
  · rintro ⟨hx, hy, hrest, rfl⟩
    obtain ⟨name, hne, hname, rfl⟩ := hy
    have hends : EndsName (b :: name ++ rest) := by
      intro c hc
      obtain rfl : b = c := Option.some.inj hc
      exact hb
    exact ⟨_, segment?_eq_some_iff.2 ⟨hx, hends, rfl⟩,
      segment?_eq_some_iff.2 ⟨⟨name, hne, hname, rfl⟩, hrest, rfl⟩⟩

/-- What follows a tag does not change the two segments at its front. -/
theorem pair?_append {a b : Char} (ha : a ∈ marks) (hb : b ∈ marks)
    (hr : EndsTag r) (s : List Char) :
    pair? a b (s ++ r) = (pair? a b s).map fun p => (p.1, p.2.1, p.2.2 ++ r) := by
  have hmark {m : Char} (hm : m ∈ marks) : ∀ c ∈ r.head?, c ≠ m :=
    fun c hc he => hr.2 c hc (he ▸ hm)
  rw [pair?, pair?, segment?_append hr.1 (hmark ha)]
  cases segment? a s with
  | none => rfl
  | some p =>
    simp only [Option.map_some, Option.bind_eq_bind, Option.bind_some,
      segment?_append hr.1 (hmark hb)]
    cases segment? b p.2 <;> rfl

theorem classAndId?_eq (s : List Char) : classAndId? s =
    match pair? '#' '.' s with
    | some (id, cls, r) => some (cls, id, r)
    | none => pair? '.' '#' s := rfl

/-- A class and an id are found in either order. -/
theorem classAndId?_eq_some_iff : classAndId? s = some (cls, id, rest) ↔
    IsSegment '.' cls ∧ IsSegment '#' id ∧ EndsName rest ∧
      (s = id ++ (cls ++ rest) ∨ s = cls ++ (id ++ rest)) := by
  have hclass : isNameChar '.' = false := by decide
  have hid : isNameChar '#' = false := by decide
  rw [classAndId?_eq]
  constructor
  · intro h
    split at h
    · next id' cls' r' hp =>
      obtain ⟨rfl, rfl, rfl⟩ : cls' = cls ∧ id' = id ∧ r' = rest := by simpa using h
      obtain ⟨hx, hy, hrest, hs⟩ := (pair?_eq_some_iff hclass).1 hp
      exact ⟨hy, hx, hrest, Or.inl hs⟩
    · obtain ⟨hx, hy, hrest, hs⟩ := (pair?_eq_some_iff hid).1 h
      exact ⟨hx, hy, hrest, Or.inr hs⟩
  · rintro ⟨hx, hy, hrest, rfl | rfl⟩
    · rw [(pair?_eq_some_iff hclass).2 ⟨hy, hx, hrest, rfl⟩]
    · have hnone : pair? '#' '.' (cls ++ (id ++ rest)) = none := by
        rw [pair?, segment?_of_startsWith (hx.startsWith.append _) (by decide)]
        rfl
      rw [hnone]
      exact (pair?_eq_some_iff hid).2 ⟨hx, hy, hrest, rfl⟩

/-- What follows a tag does not change its class and its id. -/
theorem classAndId?_append (hr : EndsTag r) (s : List Char) :
    classAndId? (s ++ r) = (classAndId? s).map fun p => (p.1, p.2.1, p.2.2 ++ r) := by
  rw [classAndId?_eq, classAndId?_eq, pair?_append (by decide) (by decide) hr,
    pair?_append (by decide) (by decide) hr]
  cases pair? '#' '.' s <;> rfl

/-- A class and an id in the order that a style asks for. -/
def ordered (style : String) (cls id : List Char) : List Char :=
  if style = "class" then cls ++ id else id ++ cls

/-- What ordering a class and an id does to a line. -/
theorem orderSegments_cases (style : String) (s : List Char) :
    orderSegments style s = s ∨ ∃ cls id rest, IsSegment '.' cls ∧ IsSegment '#' id ∧
      EndsName rest ∧
      (s = leading s ++ (id ++ (cls ++ rest)) ∨ s = leading s ++ (cls ++ (id ++ rest))) ∧
      orderSegments style s = leading s ++ (ordered style cls id ++ rest) := by
  have hs := leading_append_trimStart s
  rw [orderSegments]
  split
  · exact Or.inl rfl
  · next cls id rest h =>
    obtain ⟨hcls, hid, hrest, horder⟩ := classAndId?_eq_some_iff.1 h
    refine Or.inr ⟨cls, id, rest, hcls, hid, hrest, ?_, List.append_assoc _ _ _⟩
    rcases horder with he | he
    · exact Or.inl (he ▸ hs.symm)
    · exact Or.inr (he ▸ hs.symm)

theorem startsWith_ordered (hcls : IsSegment '.' cls) (hid : IsSegment '#' id) (style : String) :
    StartsWith ['.', '#'] (ordered style cls id) := by
  obtain ⟨name, -, -, rfl⟩ := hcls
  obtain ⟨name', -, -, rfl⟩ := hid
  rw [ordered]
  split
  · exact ⟨'.', by decide, _, rfl⟩
  · exact ⟨'#', by decide, _, rfl⟩

theorem endsInk_ordered (hcls : IsSegment '.' cls) (hid : IsSegment '#' id) (style : String) :
    EndsInk (ordered style cls id) := by
  rw [ordered]
  split
  · exact hid.endsInk.append cls
  · exact hcls.endsInk.append id

theorem marked_orderSegments (style : String) : Marked ['.', '#'] (orderSegments style) where
  ink := by simp [isBlank]
  nil := rfl
  indented a b ha := by
    rw [orderSegments, orderSegments, trimStart_append ha, leading_append ha]
    split
    · rfl
    · simp only [List.append_assoc]
  change b hb := by
    rcases orderSegments_cases style b with he | ⟨cls, id, rest, hcls, hid, -, hb', he⟩
    · exact Or.inl he
    · rw [hb.leading_eq, List.nil_append] at he
      rw [hb.leading_eq, List.nil_append, List.nil_append] at hb'
      refine Or.inr ⟨?_, ?_, fun hends => ?_⟩
      · obtain ⟨name, -, -, rfl⟩ := hcls
        obtain ⟨name', -, -, rfl⟩ := hid
        rcases hb' with rfl | rfl
        · exact ⟨'#', by decide, _, rfl⟩
        · exact ⟨'.', by decide, _, rfl⟩
      · rw [he]
        exact (startsWith_ordered hcls hid style).append rest
      · rw [he]
        rcases eq_or_ne rest [] with rfl | hne
        · rw [List.append_nil]
          exact endsInk_ordered hcls hid style
        · have hrest : EndsInk rest := by
            rcases hb' with rfl | rfl
            · rwa [← List.append_assoc, endsInk_append_iff _ hne] at hends
            · rwa [← List.append_assoc, endsInk_append_iff _ hne] at hends
          exact hrest.append _

/-- Ordering a class and an id keeps all characters of a line. -/
theorem orderSegments_perm (style : String) (s : List Char) : (orderSegments style s).Perm s := by
  rcases orderSegments_cases style s with he | ⟨cls, id, rest, -, -, -, hs, he⟩
  · rw [he]
  · have horder : (ordered style cls id).Perm (id ++ cls) := by
      rw [ordered]
      split
      · exact List.perm_append_comm
      · exact .rfl
    have hbody : s.Perm (leading s ++ (id ++ cls ++ rest)) := by
      rcases hs with hs | hs
      · rw [List.append_assoc, ← hs]
      · conv_lhs => rw [hs, ← List.append_assoc cls]
        exact (List.perm_append_comm.append_right rest).append_left (leading s)
    rw [he]
    exact ((horder.append_right rest).append_left (leading s)).trans hbody.symm

/-- A class and an id that stand in order stay so. -/
theorem orderSegments_ordered (hcls : IsSegment '.' cls) (hid : IsSegment '#' id)
    (hrest : EndsName rest) (style : String) :
    orderSegments style (ordered style cls id ++ rest) = ordered style cls id ++ rest := by
  have hstart : StartsInk (ordered style cls id ++ rest) :=
    (marked_orderSegments style).startsInk_of_startsWith
      ((startsWith_ordered hcls hid style).append rest)
  have hfound : classAndId? (ordered style cls id ++ rest) = some (cls, id, rest) := by
    refine classAndId?_eq_some_iff.2 ⟨hcls, hid, hrest, ?_⟩
    rw [ordered]
    split
    · exact Or.inr (List.append_assoc _ _ _)
    · exact Or.inl (List.append_assoc _ _ _)
  rw [orderSegments, hstart.trimStart_eq, hfound, hstart.leading_eq]
  rfl

theorem orderSegments_idempotent (style : String) (s : List Char) :
    orderSegments style (orderSegments style s) = orderSegments style s := by
  refine (marked_orderSegments style).idempotent (fun b hb => ?_) s
  rcases orderSegments_cases style b with he | ⟨cls, id, rest, hcls, hid, hrest, -, he⟩
  · rw [he, he]
  · rw [hb.leading_eq, List.nil_append] at he
    rw [he, orderSegments_ordered hcls hid hrest style]

/-- What follows a tag stays as it is when its segments are ordered. -/
theorem orderSegments_append (style : String) (hs : StartsInk s) (hr : EndsTag r) :
    orderSegments style (s ++ r) = orderSegments style s ++ r := by
  rw [orderSegments, orderSegments, (hs.append r).trimStart_eq, hs.trimStart_eq,
    (hs.append r).leading_eq, hs.leading_eq, classAndId?_append hr]
  cases classAndId? s with
  | none => rfl
  | some p => simp only [Option.map_some, List.append_assoc]

end HamlServer.Correct
