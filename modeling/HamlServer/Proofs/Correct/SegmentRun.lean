import HamlServer.Proofs.Correct.Segment
import Mathlib.Data.List.Perm.Basic

/-!
# Runs of classes and ids

A line may start with any number of classes and ids, one behind the other.  `SegmentRun` says which
they are and what follows them; every text has exactly one such run.

Ordering looks at the first two of them only.  If they are a class and an id, they come into the
order of the style, and all that stands behind them stays where it is.  So a run of two comes out in
the order of the style, and a longer one need not.

* `SegmentRun.unique`, `exists_segmentRun`: the run of a text.
* `SegmentRun.orderSegments_eq`: ordering by the run of a line.
* `orderSegments_firstPair`: what ordering keeps, and what it puts in order.
-/

namespace HamlServer.Correct

open Text

variable {style : String} {line s r seg rest rest' a b : List Char} {run run' : List (List Char)}

/-! ## The run of a text -/

/-- A class or an id. -/
def IsClassOrId (seg : List Char) : Prop := IsSegment '.' seg ∨ IsSegment '#' seg

/-- The classes and ids at the front of a text, and what follows them.  There are as many of them as
can be, and the name of the last one goes as far as it can; the names of the others end where the
next mark stands. -/
structure SegmentRun (run : List (List Char)) (rest s : List Char) : Prop where
  text : s = run.flatten ++ rest
  segments : ∀ seg ∈ run, IsClassOrId seg
  endsName : run ≠ [] → EndsName rest
  endsRun : ∀ seg r, rest = seg ++ r → ¬ IsClassOrId seg

theorem IsClassOrId.startsWith (h : IsClassOrId seg) : StartsWith ['.', '#'] seg := by
  rcases h with ⟨name, -, -, rfl⟩ | ⟨name, -, -, rfl⟩
  · exact ⟨'.', by decide, name, rfl⟩
  · exact ⟨'#', by decide, name, rfl⟩

theorem endsName_of_startsWith (h : StartsWith ['.', '#'] s) : EndsName s := by
  obtain ⟨c, hc, r, rfl⟩ := h
  intro x hx
  obtain rfl : c = x := Option.some.inj hx
  rcases List.mem_pair.1 hc with rfl | rfl
  · decide
  · decide

/-- The class or id at the front of a text, and what follows. -/
def classOrId? (s : List Char) : Option (List Char × List Char) :=
  (segment? '.' s).or (segment? '#' s)

/-- A class or an id at the front of a text goes as far as its name can. -/
theorem classOrId?_eq_some_iff :
    classOrId? s = some (seg, r) ↔ IsClassOrId seg ∧ EndsName r ∧ s = seg ++ r := by
  rw [classOrId?, Option.or_eq_some_iff, segment?_eq_some_iff, segment?_eq_some_iff]
  constructor
  · rintro (⟨hseg, hr, hs⟩ | ⟨-, hseg, hr, hs⟩)
    · exact ⟨Or.inl hseg, hr, hs⟩
    · exact ⟨Or.inr hseg, hr, hs⟩
  · rintro ⟨hseg | hseg, hr, rfl⟩
    · exact Or.inl ⟨hseg, hr, rfl⟩
    · refine Or.inr ⟨?_, hseg, hr, rfl⟩
      exact segment?_of_startsWith (hseg.startsWith.append r) (by decide)

namespace SegmentRun

/-- A text whose run is not empty starts with a mark, and what follows any other run is known not to
go on with a name. -/
theorem endsName_text (h : SegmentRun run rest s) (hrest : EndsName rest) : EndsName s := by
  rw [h.text]
  cases run with
  | nil => exact hrest
  | cons seg run =>
    rw [List.flatten_cons, List.append_assoc]
    have hseg : IsClassOrId seg := h.segments seg List.mem_cons_self
    exact endsName_of_startsWith (hseg.startsWith.append _)

theorem cons (hseg : IsClassOrId seg) (h : SegmentRun run rest r) (hr : EndsName r) :
    SegmentRun (seg :: run) rest (seg ++ r) where
  text := by rw [h.text, List.flatten_cons, List.append_assoc]
  segments := List.forall_mem_cons.2 ⟨hseg, h.segments⟩
  endsName _ := by
    cases run with
    | nil =>
      have hrest : r = rest := h.text
      rwa [← hrest]
    | cons _ _ => exact h.endsName (List.cons_ne_nil _ _)
  endsRun := h.endsRun

theorem tail (h : SegmentRun (seg :: run) rest s) :
    SegmentRun run rest (run.flatten ++ rest) where
  text := rfl
  segments := (List.forall_mem_cons.1 h.segments).2
  endsName _ := h.endsName (List.cons_ne_nil _ _)
  endsRun := h.endsRun

/-- The first segment of a run is the one that is found at the front of the text. -/
theorem classOrId?_eq_some (h : SegmentRun (seg :: run) rest s) :
    classOrId? s = some (seg, run.flatten ++ rest) := by
  rw [classOrId?_eq_some_iff]
  refine ⟨h.segments seg List.mem_cons_self, ?_, ?_⟩
  · exact h.tail.endsName_text (h.endsName (List.cons_ne_nil _ _))
  · rw [h.text, List.flatten_cons, List.append_assoc]

theorem classOrId?_eq_none (h : SegmentRun [] rest s) : classOrId? s = none := by
  rw [Option.eq_none_iff_forall_ne_some]
  rintro ⟨seg, r⟩ hs
  obtain ⟨hseg, -, hs⟩ := classOrId?_eq_some_iff.1 hs
  have hrest : s = rest := h.text
  exact h.endsRun seg r (hrest ▸ hs) hseg

/-- A text has one run only. -/
theorem unique (h : SegmentRun run rest s) (h' : SegmentRun run' rest' s) :
    run' = run ∧ rest' = rest := by
  induction run generalizing run' s with
  | nil =>
    cases run' with
    | nil =>
      have hs : s = rest := h.text
      have hs' : s = rest' := h'.text
      exact ⟨rfl, hs'.symm.trans hs⟩
    | cons seg' run' =>
      have hfound := h'.classOrId?_eq_some
      rw [h.classOrId?_eq_none] at hfound
      cases hfound
  | cons seg run ih =>
    have hfound := h.classOrId?_eq_some
    cases run' with
    | nil =>
      rw [h'.classOrId?_eq_none] at hfound
      cases hfound
    | cons seg' run' =>
      rw [h'.classOrId?_eq_some] at hfound
      obtain ⟨rfl, htext⟩ := Prod.mk.inj (Option.some.inj hfound)
      have htail := h'.tail
      rw [htext] at htail
      obtain ⟨rfl, rfl⟩ := ih h.tail htail
      exact ⟨rfl, rfl⟩

end SegmentRun

/-- Where a class or an id starts, one is found, perhaps with a longer name. -/
theorem classOrId?_append_ne_none (hseg : IsClassOrId seg) (r : List Char) :
    classOrId? (seg ++ r) ≠ none := by
  have longest {mark : Char} (h : IsSegment mark seg) :
      ∃ seg' r', IsSegment mark seg' ∧ EndsName r' ∧ seg ++ r = seg' ++ r' := by
    obtain ⟨name, hne, hname, rfl⟩ := h
    obtain ⟨c, name, rfl⟩ := List.exists_cons_of_ne_nil hne
    have hc : isNameChar c = true := hname c List.mem_cons_self
    refine ⟨mark :: (c :: name ++ r).takeWhile isNameChar, _, ⟨_, ?_, ?_, rfl⟩,
      dropWhile_stop isNameChar (c :: name ++ r), ?_⟩
    · rw [List.cons_append, List.takeWhile_cons_of_pos hc]
      exact List.cons_ne_nil _ _
    · exact List.all_eq_true.1 List.all_takeWhile
    · show mark :: (c :: name ++ r) = mark :: (_ ++ _)
      rw [List.takeWhile_append_dropWhile]
  rcases hseg with h | h
  · obtain ⟨seg', r', hseg', hr', htext⟩ := longest h
    rw [classOrId?_eq_some_iff.2 ⟨Or.inl hseg', hr', htext⟩]
    exact Option.some_ne_none _
  · obtain ⟨seg', r', hseg', hr', htext⟩ := longest h
    rw [classOrId?_eq_some_iff.2 ⟨Or.inr hseg', hr', htext⟩]
    exact Option.some_ne_none _

/-- Every text has a run, which may be empty. -/
theorem exists_segmentRun (s : List Char) : ∃ run rest, SegmentRun run rest s := by
  induction hn : s.length using Nat.strongRecOn generalizing s with
  | ind n ih =>
    cases hs : classOrId? s with
    | none =>
      refine ⟨[], s, rfl, List.forall_mem_nil _, fun hne => absurd rfl hne, ?_⟩
      intro seg r htext hseg
      rw [htext] at hs
      exact classOrId?_append_ne_none hseg r hs
    | some p =>
      obtain ⟨seg, r⟩ := p
      obtain ⟨hseg, hr, rfl⟩ := classOrId?_eq_some_iff.1 hs
      have hlt : r.length < n := by
        obtain ⟨c, -, name, rfl⟩ := hseg.startsWith
        simp only [List.length_append, List.length_cons] at hn
        omega
      obtain ⟨run, rest, hrun⟩ := ih r.length hlt r rfl
      exact ⟨seg :: run, rest, hrun.cons hseg hr⟩

/-! ## The order of a style -/

/-- The mark of the segments that a style puts first. -/
def firstMark (style : String) : Char := if style = "class" then '.' else '#'

/-- Segments stand in the order of a style: what a style puts first has nothing else in front of
it. -/
def InStyle (style : String) (run : List (List Char)) : Prop :=
  run.Pairwise fun a b => b.head? = some (firstMark style) → a.head? = some (firstMark style)

instance (style : String) (run : List (List Char)) : Decidable (InStyle style run) := by
  unfold InStyle
  infer_instance

/-- A run with its first two segments in the order of a style. -/
def orderPair (style : String) : List (List Char) → List (List Char)
  | a :: b :: more => if InStyle style [a, b] then a :: b :: more else b :: a :: more
  | run => run

theorem inStyle_pair : InStyle style [a, b] ↔
    (b.head? = some (firstMark style) → a.head? = some (firstMark style)) := by
  rw [InStyle, List.pairwise_pair]

/-- A run is a single segment at most, or has a first pair, which stays or is turned around. -/
theorem orderPair_cases (style : String) (run : List (List Char)) :
    orderPair style run = run ∧ InStyle style (run.take 2) ∨
      ∃ a b more, run = a :: b :: more ∧ ¬ InStyle style [a, b] ∧
        orderPair style run = b :: a :: more := by
  match run with
  | [] => exact Or.inl ⟨rfl, List.Pairwise.nil⟩
  | [a] => exact Or.inl ⟨rfl, List.pairwise_singleton _ a⟩
  | a :: b :: more =>
    rw [orderPair]
    by_cases h : InStyle style [a, b]
    · rw [if_pos h]
      exact Or.inl ⟨rfl, h⟩
    · rw [if_neg h]
      exact Or.inr ⟨a, b, more, rfl, h, rfl⟩

theorem orderPair_perm (style : String) (run : List (List Char)) :
    (orderPair style run).Perm run := by
  rcases orderPair_cases style run with ⟨he, -⟩ | ⟨a, b, more, rfl, -, he⟩
  · rw [he]
  · rw [he]
    exact List.Perm.swap a b more

theorem drop_orderPair (style : String) (run : List (List Char)) :
    (orderPair style run).drop 2 = run.drop 2 := by
  rcases orderPair_cases style run with ⟨he, -⟩ | ⟨a, b, more, rfl, -, he⟩
  · rw [he]
  · rw [he]
    rfl

theorem take_orderPair_perm (style : String) (run : List (List Char)) :
    ((orderPair style run).take 2).Perm (run.take 2) := by
  rcases orderPair_cases style run with ⟨he, -⟩ | ⟨a, b, more, rfl, -, he⟩
  · rw [he]
  · rw [he]
    exact List.Perm.swap a b []

theorem inStyle_orderPair_take (style : String) (run : List (List Char)) :
    InStyle style ((orderPair style run).take 2) := by
  rcases orderPair_cases style run with ⟨he, h⟩ | ⟨a, b, more, rfl, h, he⟩
  · rwa [he]
  · rw [he]
    rw [inStyle_pair] at h
    push Not at h
    exact inStyle_pair.2 fun _ => h.1

/-- A run whose first pair was put in order is in order as a whole exactly if what stands behind the
pair is in order, and nothing there should stand in front of it. -/
theorem inStyle_orderPair_iff (style : String) (run : List (List Char)) :
    InStyle style (orderPair style run) ↔ InStyle style (run.drop 2) ∧
      ∀ b ∈ run.drop 2, b.head? = some (firstMark style) →
        ∀ a ∈ run.take 2, a.head? = some (firstMark style) := by
  have hsplit : orderPair style run = (orderPair style run).take 2 ++ run.drop 2 := by
    rw [← drop_orderPair style run, List.take_append_drop]
  have hmem (a : List Char) : a ∈ (orderPair style run).take 2 ↔ a ∈ run.take 2 :=
    (take_orderPair_perm style run).mem_iff
  rw [hsplit, InStyle, List.pairwise_append]
  constructor
  · intro ⟨_, hrest, hcross⟩
    exact ⟨hrest, fun b hb hfirst a ha => hcross a ((hmem a).2 ha) b hb hfirst⟩
  · intro ⟨hrest, hcross⟩
    exact ⟨inStyle_orderPair_take style run, hrest,
      fun a ha b hb hfirst => hcross b hb hfirst a ((hmem a).1 ha)⟩

/-! ## Ordering a line -/

theorem IsSegment.head? {mark : Char} (h : IsSegment mark seg) : seg.head? = some mark := by
  obtain ⟨name, -, -, rfl⟩ := h
  rfl

/-- A class and an id at the front of a run come into the order of the style, whichever of them
stands first. -/
theorem flatten_orderPair {cls id : List Char} (hcls : IsSegment '.' cls) (hid : IsSegment '#' id)
    (style : String) (more : List (List Char)) :
    (orderPair style (id :: cls :: more)).flatten = ordered style cls id ++ more.flatten ∧
      (orderPair style (cls :: id :: more)).flatten = ordered style cls id ++ more.flatten := by
  rw [orderPair, orderPair, ordered]
  simp only [inStyle_pair, hcls.head?, hid.head?, firstMark]
  by_cases hs : style = "class"
  · simp [hs]
  · simp [hs]

/-- Two segments out of order are a class and an id. -/
theorem exists_classAndId?_of_not_inStyle (ha : IsClassOrId a) (hb : IsClassOrId b)
    (h : ¬ InStyle style [a, b]) (hr : EndsName r) : classAndId? (a ++ (b ++ r)) ≠ none := by
  have hheads : a.head? ≠ b.head? := by
    intro he
    exact h (inStyle_pair.2 fun hfirst => he.trans hfirst)
  rcases ha with ha | ha
  · rcases hb with hb | hb
    · exact absurd (ha.head?.trans hb.head?.symm) hheads
    · rw [classAndId?_eq_some_iff.2 ⟨ha, hb, hr, Or.inr rfl⟩]
      exact Option.some_ne_none _
  · rcases hb with hb | hb
    · rw [classAndId?_eq_some_iff.2 ⟨hb, ha, hr, Or.inl rfl⟩]
      exact Option.some_ne_none _
    · exact absurd (ha.head?.trans hb.head?.symm) hheads

/-- Ordering a line puts the first two segments of its run into the order of the style. -/
theorem SegmentRun.orderSegments_eq (h : SegmentRun run rest (trimStart line)) (style : String) :
    orderSegments style line = leading line ++ ((orderPair style run).flatten ++ rest) := by
  rw [orderSegments]
  cases hc : classAndId? (trimStart line) with
  | none =>
    -- no class and id are found, so the run is in order as it stands
    rcases orderPair_cases style run with ⟨he, -⟩ | ⟨a, b, more, rfl, hout, -⟩
    · rw [he, ← h.text, leading_append_trimStart]
    · have ha : IsClassOrId a := h.segments a List.mem_cons_self
      have hb : IsClassOrId b := h.tail.segments b List.mem_cons_self
      have hrest : EndsName rest := h.endsName (List.cons_ne_nil _ _)
      have hends : EndsName (more.flatten ++ rest) := h.tail.tail.endsName_text hrest
      have htext : trimStart line = a ++ (b ++ (more.flatten ++ rest)) := by
        rw [h.text, List.flatten_cons, List.flatten_cons, List.append_assoc, List.append_assoc]
      rw [htext] at hc
      exact absurd hc (exists_classAndId?_of_not_inStyle ha hb hout hends)
  | some p =>
    obtain ⟨cls, id, r⟩ := p
    obtain ⟨hcls, hid, hr, htext⟩ := classAndId?_eq_some_iff.1 hc
    obtain ⟨more, rest', hmore⟩ := exists_segmentRun r
    have hrun (x y : List Char) (hx : IsClassOrId x) (hy : IsClassOrId y)
        (hxy : trimStart line = x ++ (y ++ r)) : x :: y :: more = run ∧ rest' = rest := by
      have hends : EndsName (y ++ r) := endsName_of_startsWith (hy.startsWith.append r)
      have hpair := (hmore.cons hy hr).cons hx hends
      rw [← hxy] at hpair
      exact h.unique hpair
    obtain ⟨hid_first, hcls_first⟩ := flatten_orderPair hcls hid style more
    have hflat : (orderPair style run).flatten = ordered style cls id ++ more.flatten ∧
        rest' = rest := by
      rcases htext with he | he
      · obtain ⟨rfl, hrest⟩ := hrun id cls (Or.inr hid) (Or.inl hcls) he
        exact ⟨hid_first, hrest⟩
      · obtain ⟨rfl, hrest⟩ := hrun cls id (Or.inl hcls) (Or.inr hid) he
        exact ⟨hcls_first, hrest⟩
    rw [hflat.1, ← hflat.2, hmore.text]
    show leading line ++ ordered style cls id ++ _ = _
    simp only [List.append_assoc]

/-- The segments of a run in another order are again a run, in front of the same rest. -/
theorem SegmentRun.of_perm (h : SegmentRun run rest s) (hp : run'.Perm run) :
    SegmentRun run' rest (run'.flatten ++ rest) where
  text := rfl
  segments seg hseg := h.segments seg (hp.mem_iff.1 hseg)
  endsName hne := by
    refine h.endsName fun hnil => hne ?_
    rw [hnil] at hp
    exact hp.eq_nil
  endsRun := h.endsRun

/-- A line that is put together from an indentation, the segments of its run in any order, and its
rest has these parts. -/
theorem SegmentRun.parts (h : SegmentRun run rest (trimStart line)) (hp : run'.Perm run) :
    leading (leading line ++ (run'.flatten ++ rest)) = leading line ∧
      SegmentRun run' rest (trimStart (leading line ++ (run'.flatten ++ rest))) := by
  have hblank : isBlankText (leading line) = true := isBlankText_leading line
  have hbody : run'.flatten ++ rest = [] ∨ StartsInk (run'.flatten ++ rest) := by
    cases run' with
    | nil =>
      obtain rfl : run = [] := hp.symm.eq_nil
      have htext : trimStart line = [].flatten ++ rest := h.text
      rw [← htext]
      exact trimStart_eq_nil_or_startsInk line
    | cons seg run' =>
      have hseg : IsClassOrId seg := h.segments seg (hp.mem_iff.1 List.mem_cons_self)
      rw [List.flatten_cons, List.append_assoc]
      exact Or.inr ((marked_orderSegments "class").startsInk_of_startsWith
        (hseg.startsWith.append _))
  have hrun : SegmentRun run' rest (run'.flatten ++ rest) := h.of_perm hp
  rw [leading_append hblank, trimStart_append hblank]
  rcases hbody with hnil | hink
  · rw [hnil] at hrun ⊢
    exact ⟨List.append_nil _, hrun⟩
  · rw [hink.leading_eq, hink.trimStart_eq]
    exact ⟨List.append_nil _, hrun⟩

/-- **Ordering a line.**  A line is white space, a run of classes and ids, and a rest, in one way
only.  Ordering keeps the white space and the rest, and gives the segments of the run in another
order: the first two in the order of the style, and those behind them as they were.  So the whole
run comes out in the order of the style exactly if the segments behind the first two are in that
order, and none of them should stand in front of the first two. -/
theorem orderSegments_firstPair (style : String) (line : List Char) :
    ∃ run rest, SegmentRun run rest (trimStart line) ∧
      (∀ run' rest', SegmentRun run' rest' (trimStart line) → run' = run ∧ rest' = rest) ∧
      ∃ run', orderSegments style line = leading line ++ (run'.flatten ++ rest) ∧
        leading (orderSegments style line) = leading line ∧
        SegmentRun run' rest (trimStart (orderSegments style line)) ∧
        run'.Perm run ∧ InStyle style (run'.take 2) ∧ run'.drop 2 = run.drop 2 ∧
        (InStyle style run' ↔ InStyle style (run.drop 2) ∧
          ∀ b ∈ run.drop 2, b.head? = some (firstMark style) →
            ∀ a ∈ run.take 2, a.head? = some (firstMark style)) := by
  obtain ⟨run, rest, h⟩ := exists_segmentRun (trimStart line)
  have hperm : (orderPair style run).Perm run := orderPair_perm style run
  have hline := h.orderSegments_eq style
  obtain ⟨hleading, hrun⟩ := h.parts hperm
  rw [← hline] at hleading hrun
  exact ⟨run, rest, h, fun _ _ h' => h.unique h', orderPair style run, hline, hleading, hrun, hperm,
    inStyle_orderPair_take style run, drop_orderPair style run, inStyle_orderPair_iff style run⟩

/-- An id in front of two classes: it changes places with the first of them, and stays in front of
the second, so the classes do not come out in front of the id. -/
theorem not_inStyle_orderSegments :
    let line := "#a.b.c".toList
    let run := ["#a".toList, ".b".toList, ".c".toList]
    SegmentRun run [] (trimStart line) ∧ orderSegments "class" line = ".b#a.c".toList ∧
      ¬ ∃ run' : List (List Char), run'.Perm run ∧ InStyle "class" run' ∧
        orderSegments "class" line = leading line ++ (run'.flatten ++ []) := by
  intro line run
  have isClassOrId (name : List Char) (hne : name ≠ []) (hname : ∀ c ∈ name, isNameChar c = true) :
      IsClassOrId ('.' :: name) ∧ IsClassOrId ('#' :: name) :=
    ⟨Or.inl ⟨name, hne, hname, rfl⟩, Or.inr ⟨name, hne, hname, rfl⟩⟩
  have hrun : SegmentRun run [] (trimStart line) := by
    refine ⟨by decide +kernel, ?_, fun _ _ hc => (nomatch hc), ?_⟩
    · intro seg hseg
      simp only [run, List.mem_cons, List.not_mem_nil, or_false] at hseg
      rcases hseg with rfl | rfl | rfl
      · exact (isClassOrId ['a'] (by decide) (List.all_eq_true.1 (by decide))).2
      · exact (isClassOrId ['b'] (by decide) (List.all_eq_true.1 (by decide))).1
      · exact (isClassOrId ['c'] (by decide) (List.all_eq_true.1 (by decide))).1
    · intro seg r htext hseg
      obtain ⟨c, -, name, rfl⟩ := hseg.startsWith
      cases htext
  have hout : orderSegments "class" line = ".b#a.c".toList := by decide +kernel
  refine ⟨hrun, hout, ?_⟩
  rintro ⟨run', hperm, hstyle, hline⟩
  -- the segments that come out are those of the line that comes out
  have hturned : SegmentRun [".b".toList, "#a".toList, ".c".toList] [] ".b#a.c".toList :=
    hrun.of_perm (List.Perm.swap _ _ _)
  have hrun' : SegmentRun run' [] (run'.flatten ++ []) := hrun.of_perm hperm
  have htext : ".b#a.c".toList = run'.flatten ++ [] := by
    rw [← hout, hline]
    rfl
  rw [← htext] at hrun'
  obtain ⟨rfl, -⟩ := hturned.unique hrun'
  revert hstyle
  decide

end HamlServer.Correct
