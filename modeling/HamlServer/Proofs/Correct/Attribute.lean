import HamlServer.Proofs.Correct.Segment
import HamlServer.Proofs.Text.Lines

/-!
# Attributes behind a tag

A tag is the longest run of segments at the front of a text.  It is read in the same way in front of
everything that ends it (`IsTag.segments_append`), so once the parenthesis behind it was written as
a hash, no parenthesis is found there, and the segments of the tag are ordered as before.

* `hashAttributes_idempotent`, `orderSegments_keeps_hashAttributes`
* `mem_hashAttributes`: which characters a line can get.
-/

namespace HamlServer.Correct

open Text

variable {c : Char} {s r seg rest inner tag : List Char}

/-! ## Tags -/

/-- The segment at the front of a text, with any mark, and what follows. -/
def anySegment? (s : List Char) : Option (List Char × List Char) :=
  (segment? '.' s).or ((segment? '#' s).or (segment? '%' s))

theorem anySegment?_eq_some (h : anySegment? s = some (seg, r)) :
    StartsWith marks seg ∧ s = seg ++ r := by
  have hmark {mark : Char} (hm : mark ∈ marks) (h : segment? mark s = some (seg, r)) :
      StartsWith marks seg ∧ s = seg ++ r := by
    obtain ⟨⟨name, -, -, rfl⟩, -, hs⟩ := segment?_eq_some_iff.1 h
    exact ⟨⟨mark, hm, name, rfl⟩, hs⟩
  rw [anySegment?, Option.or_eq_some_iff, Option.or_eq_some_iff] at h
  rcases h with h | ⟨-, h | ⟨-, h⟩⟩
  · exact hmark (by decide) h
  · exact hmark (by decide) h
  · exact hmark (by decide) h

theorem anySegment?_append (hr : EndsTag r) (s : List Char) :
    anySegment? (s ++ r) = (anySegment? s).map fun p => (p.1, p.2 ++ r) := by
  have hmark {mark : Char} (hm : mark ∈ marks) :
      segment? mark (s ++ r) = (segment? mark s).map fun p => (p.1, p.2 ++ r) :=
    segment?_append hr.1 (fun c hc he => hr.2 c hc (he ▸ hm)) s
  rw [anySegment?, anySegment?, hmark (by decide), hmark (by decide), hmark (by decide),
    Option.map_or, Option.map_or]

theorem segments_succ (n : Nat) (s : List Char) : segments (n + 1) s =
    match anySegment? s with
    | some (seg, r) => (seg ++ (segments n r).1, (segments n r).2)
    | none => ([], s) := rfl

/-- A tag and what follows make up the text. -/
theorem segments_append_eq (n : Nat) (s : List Char) :
    (segments n s).1 ++ (segments n s).2 = s := by
  induction n generalizing s with
  | zero => rfl
  | succ n ih =>
    rw [segments_succ]
    split
    · next seg r h =>
      rw [List.append_assoc, ih, ← (anySegment?_eq_some h).2]
    · rfl

theorem startsWith_segments {n : Nat} (h : (segments n s).1 ≠ []) :
    StartsWith marks (segments n s).1 := by
  cases n with
  | zero => exact absurd rfl h
  | succ n =>
    rw [segments_succ] at h ⊢
    split
    · next hs => exact (anySegment?_eq_some hs).1.append _
    · next hs =>
      rw [hs] at h
      exact absurd rfl h

/-- As many steps as a text has characters are enough for its tag. -/
theorem segments_of_le {n m : Nat} (hn : s.length ≤ n) (hm : s.length ≤ m) :
    segments n s = segments m s := by
  induction n generalizing s m with
  | zero =>
    obtain rfl : s = [] := List.length_eq_zero_iff.1 (Nat.le_zero.1 hn)
    cases m <;> rfl
  | succ n ih =>
    cases m with
    | zero =>
      obtain rfl : s = [] := List.length_eq_zero_iff.1 (Nat.le_zero.1 hm)
      rfl
    | succ m =>
      rw [segments_succ, segments_succ]
      cases h : anySegment? s with
      | none => rfl
      | some p =>
        have hp : anySegment? s = some (p.1, p.2) := h
        obtain ⟨⟨c, -, name, hseg⟩, hs⟩ := anySegment?_eq_some hp
        have hlt : p.2.length < s.length := by
          rw [hs, hseg, List.length_append, List.length_cons]
          omega
        have hrest := ih (s := p.2) (m := m) (by omega) (by omega)
        simp only [hrest]

/-- What follows a tag does not change how it is read. -/
theorem segments_append (hr : EndsTag r) (n : Nat) (s : List Char) :
    segments n (s ++ r) = ((segments n s).1, (segments n s).2 ++ r) := by
  induction n generalizing s with
  | zero => rfl
  | succ n ih =>
    rw [segments_succ, segments_succ, anySegment?_append hr]
    cases anySegment? s with
    | none => rfl
    | some p => simp only [Option.map_some, ih]

/-- A text that is a tag as a whole. -/
def IsTag (s : List Char) : Prop := s ≠ [] ∧ segments s.length s = (s, [])

theorem IsTag.startsWith (h : IsTag s) : StartsWith marks s := by
  have hs := startsWith_segments (n := s.length) (s := s) (by rw [h.2]; exact h.1)
  rwa [h.2] at hs

/-- A tag is read in front of whatever ends it. -/
theorem IsTag.segments_append (h : IsTag s) (hr : EndsTag r) {n : Nat} (hn : s.length ≤ n) :
    segments n (s ++ r) = (s, r) := by
  rw [Correct.segments_append hr, segments_of_le hn (Nat.le_refl _), h.2]
  rfl

theorem isTag_of_segments {n : Nat} {tag : List Char} (hn : s.length ≤ n)
    (h : segments n s = (tag, r)) (hne : tag ≠ []) (hr : EndsTag r) : IsTag tag ∧ s = tag ++ r := by
  have hs : tag ++ r = s := by
    have := segments_append_eq n s
    rwa [h] at this
  refine ⟨⟨hne, ?_⟩, hs.symm⟩
  have hlen : tag.length ≤ n := by
    rw [← hs, List.length_append] at hn
    omega
  rw [← hs, Correct.segments_append hr, segments_of_le hlen (Nat.le_refl _)] at h
  obtain ⟨htag, hrest⟩ := Prod.mk.inj h
  exact Prod.ext htag (List.append_left_eq_self.1 hrest)

/-! ## Attributes -/

theorem endsTag_of_head {c : Char} (hname : isNameChar c = false) (hmark : c ∉ marks)
    (r : List Char) : EndsTag (c :: r) := by
  have hc (x : Char) (hx : x ∈ (c :: r).head?) : c = x := Option.some.inj hx
  exact ⟨fun x hx => hc x hx ▸ hname, fun x hx => hc x hx ▸ hmark⟩

theorem parenthesized?_eq_some (h : parenthesized? s = some (inner, rest)) :
    s = '(' :: (inner ++ ')' :: rest) := by
  unfold parenthesized? at h
  split at h
  · next r =>
    dsimp only at h
    split at h
    · next rest' hr =>
      obtain ⟨rfl, rfl⟩ := Prod.mk.inj (Option.some.inj h)
      rw [drop_length_takeWhile] at hr
      rw [← hr, List.takeWhile_append_dropWhile]
    · cases h
  · cases h

/-- Behind a tag, either nothing is written as a hash, or the parenthesis there. -/
theorem hashAttributes_cases (s : List Char) :
    hashAttributes s = s ∨ ∃ tag inner rest, IsTag tag ∧ attributes inner.length inner ≠ [] ∧
      s = leading s ++ (tag ++ '(' :: (inner ++ ')' :: rest)) ∧
      hashAttributes s =
        leading s ++ (tag ++ (toHash (attributes inner.length inner) ++ rest)) := by
  have hlen : (trimStart s).length ≤ s.length := (List.dropWhile_sublist _).length_le
  have hs := leading_append_trimStart s
  rw [hashAttributes]
  obtain ⟨tag, r, hseg⟩ : ∃ tag r, segments s.length (trimStart s) = (tag, r) := ⟨_, _, rfl⟩
  rw [hseg]
  dsimp only
  split_ifs with htag
  · exact Or.inl rfl
  · split
    · exact Or.inl rfl
    · next inner rest hp =>
      obtain rfl := parenthesized?_eq_some hp
      obtain ⟨htag, hbody⟩ := isTag_of_segments hlen hseg htag
        (endsTag_of_head (by decide) (by decide) _)
      split
      · exact Or.inl rfl
      · next has =>
        refine Or.inr ⟨tag, inner, rest, htag, has, ?_, ?_⟩
        · rw [← hbody, hs]
        · simp only [List.append_assoc]

theorem toHash_eq (as : List (List Char × AttributeValue)) :
    ∃ inside, toHash as = '\x7b' :: (inside ++ ['\x7d']) := ⟨_, rfl⟩

theorem endsTag_toHash (as : List (List Char × AttributeValue)) (rest : List Char) :
    EndsTag (toHash as ++ rest) := by
  obtain ⟨inside, he⟩ := toHash_eq as
  rw [he]
  exact endsTag_of_head (by decide) (by decide) _

theorem marked_hashAttributes : Marked marks hashAttributes where
  ink := by simp [marks, isBlank]
  nil := rfl
  indented a b ha := by
    have hlen : (trimStart b).length ≤ b.length := (List.dropWhile_sublist _).length_le
    have hsegments : segments (a ++ b).length (trimStart b) = segments b.length (trimStart b) :=
      segments_of_le (by rw [List.length_append]; omega) hlen
    rw [hashAttributes, hashAttributes, trimStart_append ha, leading_append ha, hsegments]
    dsimp only
    split_ifs
    · rfl
    · split
      · rfl
      · split
        · rfl
        · simp only [List.append_assoc]
  change b hb := by
    rcases hashAttributes_cases b with he | ⟨tag, inner, rest, htag, -, hs, he⟩
    · exact Or.inl he
    · rw [hb.leading_eq, List.nil_append] at hs he
      obtain ⟨inside, hhash⟩ := toHash_eq (attributes inner.length inner)
      refine Or.inr ⟨hs ▸ htag.startsWith.append _, he ▸ htag.startsWith.append _, fun hends => ?_⟩
      rw [he]
      rcases eq_or_ne rest [] with rfl | hne
      · rw [hhash, List.append_nil, ← List.cons_append, ← List.append_assoc, endsInk_concat]
        decide
      · have hbody : b = (tag ++ '(' :: (inner ++ [')'])) ++ rest := by rw [hs]; simp
        rw [hbody, endsInk_append_iff _ hne] at hends
        exact (hends.append _).append _

/-- Behind a tag with a hash there is no parenthesis to write as one. -/
theorem hashAttributes_toHash (htag : IsTag tag) (as : List (List Char × AttributeValue))
    (rest : List Char) :
    hashAttributes (tag ++ (toHash as ++ rest)) = tag ++ (toHash as ++ rest) := by
  have hstart : StartsInk (tag ++ (toHash as ++ rest)) :=
    marked_hashAttributes.startsInk_of_startsWith (htag.startsWith.append _)
  have hlen : tag.length ≤ (tag ++ (toHash as ++ rest)).length := by
    rw [List.length_append]
    omega
  obtain ⟨inside, he⟩ := toHash_eq as
  rw [hashAttributes, hstart.trimStart_eq, htag.segments_append (endsTag_toHash as rest) hlen]
  dsimp only
  rw [if_neg htag.1, he]
  rfl

theorem hashAttributes_idempotent (s : List Char) :
    hashAttributes (hashAttributes s) = hashAttributes s := by
  refine marked_hashAttributes.idempotent (fun b hb => ?_) s
  rcases hashAttributes_cases b with he | ⟨tag, inner, rest, htag, -, -, he⟩
  · rw [he, he]
  · rw [hb.leading_eq, List.nil_append] at he
    rw [he, hashAttributes_toHash htag]

/-- The segments of a tag stay in order when the attributes behind it are written as a hash. -/
theorem orderSegments_keeps_hashAttributes (style : String) :
    Keeps (orderSegments style) hashAttributes := by
  refine (marked_orderSegments style).keeps marked_hashAttributes fun b hb hs => ?_
  rcases hashAttributes_cases b with he | ⟨tag, inner, rest, htag, -, hbody, he⟩
  · rw [he, hs]
  · rw [hb.leading_eq, List.nil_append] at hbody he
    have hstart : StartsInk tag := marked_hashAttributes.startsInk_of_startsWith htag.startsWith
    rw [hbody, orderSegments_append style hstart
      (endsTag_of_head (by decide) (by decide) _)] at hs
    rw [he, orderSegments_append style hstart (endsTag_toHash _ rest),
      List.append_cancel_right hs]

/-! ## The characters of a hash -/

/-- The characters that a hash is written with, next to those of its attributes. -/
def glyphs : List Char := [' ', ',', ':', '\'', '"', '\x7b', '\x7d']

/-- The text of a value. -/
def AttributeValue.text : AttributeValue → List Char
  | .double text | .single text | .bare text => text

theorem AttributeValue.mem_toHash {v : AttributeValue} (h : c ∈ v.toHash) :
    c ∈ v.text ∨ c ∈ glyphs := by
  have hquoted {q : Char} {t : List Char} (hq : q ∈ glyphs) (h : c ∈ q :: t ++ [q]) :
      c ∈ t ∨ c ∈ glyphs := by
    rw [List.cons_append, List.mem_cons, List.mem_append, List.mem_singleton] at h
    rcases h with rfl | h | rfl
    · exact Or.inr hq
    · exact Or.inl h
    · exact Or.inr hq
  cases v with
  | double t =>
    rw [toHash] at h
    split at h
    · exact hquoted (by decide) h
    · exact hquoted (by decide) h
  | single t => exact hquoted (by decide) h
  | bare t => exact Or.inl h

/-- A value and what follows it are parts of the text that they are read from. -/
theorem AttributeValue.read_sublist (s : List Char) :
    (read s).1.text.Sublist s ∧ (read s).2.Sublist s := by
  have hquoted {q : Char} {t text rest : List Char} (h : untilQuote? q t = some (text, rest)) :
      text.Sublist (q :: t) ∧ rest.Sublist (q :: t) := by
    obtain ⟨rfl, -⟩ := cutAt_eq_some h
    exact ⟨(List.sublist_append_left text _).cons q,
      (((List.Sublist.refl rest).cons q).trans (List.sublist_append_right text _)).cons q⟩
  have hbare (s : List Char) (p : Char → Bool) :
      (s.takeWhile p).Sublist s ∧ (s.drop (s.takeWhile p).length).Sublist s :=
    ⟨List.takeWhile_sublist p, List.drop_sublist _ s⟩
  unfold read
  dsimp only
  split
  · split
    · next h => exact hquoted h
    · exact hbare _ _
  · split
    · next h => exact hquoted h
    · exact hbare _ _
  · exact hbare _ _

theorem mem_attributeToHash {a : List Char × AttributeValue} (h : c ∈ attributeToHash a) :
    c ∈ a.1 ∨ c ∈ a.2.text ∨ c ∈ glyphs := by
  rw [attributeToHash, List.mem_append, List.mem_cons, List.mem_cons] at h
  rcases h with h | rfl | rfl | h
  · split at h
    · rw [List.cons_append, List.mem_cons, List.mem_append, List.mem_singleton] at h
      rcases h with rfl | h | rfl
      · exact Or.inr (Or.inr (by decide))
      · exact Or.inl h
      · exact Or.inr (Or.inr (by decide))
    · exact Or.inl h
  · exact Or.inr (Or.inr (by decide))
  · exact Or.inr (Or.inr (by decide))
  · exact Or.inr (AttributeValue.mem_toHash h)

/-- Attributes are parts of the text that they are read from. -/
theorem attributes_sublist {a : List Char × AttributeValue} (n : Nat) (s : List Char)
    (h : a ∈ attributes n s) : a.1.Sublist s ∧ a.2.text.Sublist s := by
  induction n generalizing s with
  | zero => cases h
  | succ n ih =>
    have hdrop := List.dropWhile_sublist (fun c => !isWordChar c) (l := s)
    rw [attributes] at h
    generalize s.dropWhile (fun c => !isWordChar c) = t at h hdrop
    split at h
    · cases h
    · have hname : (t.takeWhile isNameChar).Sublist s := (List.takeWhile_sublist _).trans hdrop
      have hrest : (t.drop (t.takeWhile isNameChar).length).Sublist s :=
        (List.drop_sublist _ _).trans hdrop
      dsimp only at h
      split at h
      · next r hr =>
        rw [hr] at hrest
        have hvalue := AttributeValue.read_sublist r
        have hr' : r.Sublist s := (List.sublist_cons_self '=' r).trans hrest
        rcases List.mem_cons.1 h with rfl | h
        · exact ⟨hname, hvalue.1.trans hr'⟩
        · obtain ⟨h₁, h₂⟩ := ih _ h
          exact ⟨h₁.trans (hvalue.2.trans hr'), h₂.trans (hvalue.2.trans hr')⟩
      · obtain ⟨h₁, h₂⟩ := ih _ h
        exact ⟨h₁.trans hrest, h₂.trans hrest⟩

/-- Writing attributes as a hash brings no characters other than those a hash is written with. -/
theorem mem_hashAttributes (h : c ∈ hashAttributes s) : c ∈ s ∨ c ∈ glyphs := by
  rcases hashAttributes_cases s with he | ⟨tag, inner, rest, -, -, hs, he⟩
  · exact Or.inl (he ▸ h)
  · have hin (hc : c ∈ inner) : c ∈ s := by
      rw [hs]
      simp [hc]
    rw [he, List.mem_append, List.mem_append, List.mem_append] at h
    rcases h with h | h | h | h
    · exact Or.inl (by rw [hs]; exact List.mem_append_left _ h)
    · exact Or.inl (by rw [hs]; simp [h])
    · rw [toHash, List.cons_append, List.mem_cons, List.mem_append, List.mem_singleton] at h
      rcases h with rfl | h | rfl
      · exact Or.inr (by decide)
      · rcases mem_intercalate h with h | ⟨text, htext, h⟩
        · have hcomma : ∀ x ∈ [',', ' '], x ∈ glyphs := by simp [glyphs]
          exact Or.inr (hcomma c h)
        · obtain ⟨a, ha, rfl⟩ := List.mem_map.1 htext
          obtain ⟨hname, hvalue⟩ := attributes_sublist _ _ ha
          rcases mem_attributeToHash h with h | h | h
          · exact Or.inl (hin (hname.mem h))
          · exact Or.inl (hin (hvalue.mem h))
          · exact Or.inr h
      · exact Or.inr (by decide)
    · exact Or.inl (by rw [hs]; simp [h])

end HamlServer.Correct
