import HamlServer.Proofs.Correct.Attribute

/-!
# Attributes that become a hash

Behind a tag stand attributes, parted by white space: a name, alone or with a value.  A hash gets
those of them that have a value, under the last word of their names.  Quoted text without
interpolation is put between single quotes as it stands, which is the literal of that text as long
as nothing in it is read as an escape or as the closing quote.

* `attributes_spelled`: which attributes are read.
* `singleQuoted?_iff`: which texts a literal denotes that are written into it as they stand.
* `hashAttributes_spelled`: the hash of a list of attributes, and what it keeps of them.
-/

namespace HamlServer.Correct

open Text

variable {c : Char} {n : Nat} {s t x text r rest indent tag inner : List Char}

/-! ## Attributes as they are written -/

namespace AttributeValue

/-- A value as it stands behind the equals sign. -/
def written : AttributeValue → List Char
  | .double text => '"' :: (text ++ ['"'])
  | .single text => '\'' :: (text ++ ['\''])
  | .bare text => text

/-- A quoted value does not hold the quote that it stands in, and a bare one holds neither quotes
nor white space. -/
def Proper : AttributeValue → Prop
  | .double text => '"' ∉ text
  | .single text => '\'' ∉ text
  | .bare text => ∀ c ∈ text, c ≠ '"' ∧ c ≠ '\'' ∧ isBlank c = false

instance : DecidablePred Proper
  | .double text => inferInstanceAs (Decidable ('"' ∉ text))
  | .single text => inferInstanceAs (Decidable ('\'' ∉ text))
  | .bare text => List.decidableBAll (fun c => c ≠ '"' ∧ c ≠ '\'' ∧ isBlank c = false) text

/-- The text of a quoted value without interpolation. -/
def literalText? : AttributeValue → Option (List Char)
  | .double text => if contains ['#', '\x7b'] text then none else some text
  | .single text => some text
  | .bare _ => none

/-- A value is read in front of white space and at the end of the text. -/
theorem read_written {v : AttributeValue} (hv : v.Proper)
    (hrest : ∀ c ∈ rest.head?, isBlank c = true) : read (v.written ++ rest) = (v, rest) := by
  have hcut {quote : Char} {text : List Char} (h : quote ∉ text) :
      untilQuote? quote (text ++ [quote] ++ rest) = some (text, rest) := by
    rw [List.append_assoc]
    exact cutAt_append h rest
  cases v with
  | double text => rw [written, List.cons_append, read, hcut hv]
  | single text => rw [written, List.cons_append, read, hcut hv]
  | bare text =>
    have hstop : ∀ c ∈ rest.head?, (c != '"' && c != '\'' && !isBlank c) = false := by
      intro c hc
      rw [hrest c hc, Bool.not_true, Bool.and_false]
    have hrun : (text ++ rest).takeWhile (fun c => c != '"' && c != '\'' && !isBlank c) = text := by
      rw [takeWhile_append_of_stop hstop, List.takeWhile_eq_self_iff]
      intro c hc
      obtain ⟨hdouble, hsingle, hblank⟩ := hv c hc
      simp [hdouble, hsingle, hblank]
    have hquote (q : Char) (hq : isBlank q = false) (hne : ∀ c ∈ text, c ≠ q) (r : List Char) :
        text ++ rest ≠ q :: r := by
      intro he
      cases text with
      | nil =>
        have hblank := hrest q (by rw [List.nil_append] at he; rw [he]; rfl)
        rw [hq] at hblank
        cases hblank
      | cons c text => exact hne c List.mem_cons_self (List.cons.inj he).1
    rw [written, read]
    · rw [hrun, List.drop_left]
    · exact hquote '"' rfl fun c hc => (hv c hc).1
    · exact hquote '\'' rfl fun c hc => (hv c hc).2.1

/-- Quoted text without interpolation is put between single quotes as it stands. -/
theorem toHash_of_literalText? {v : AttributeValue} (h : text ∈ v.literalText?) :
    v.toHash = '\'' :: text ++ ['\''] := by
  cases v with
  | double t =>
    rw [literalText?] at h
    split at h
    · cases h
    · next hplain =>
      obtain rfl := Option.some.inj h
      rw [toHash, if_neg hplain]
  | single t =>
    obtain rfl := Option.some.inj h
    rfl
  | bare t => cases h

end AttributeValue

/-- A run of word characters and hyphens with no hyphen in front. -/
def IsWord (s : List Char) : Prop :=
  (∃ c ∈ s.head?, isWordChar c = true) ∧ ∀ c ∈ s, isNameChar c = true

instance : DecidablePred IsWord := fun s =>
  decidable_of_iff (s.head?.any isWordChar = true ∧ s.all isNameChar = true) <| by
    rw [Option.any_eq_true, List.all_eq_true]
    rfl

/-- An attribute behind a tag: a name, alone or with a value.  `word` is the last word of the name,
and `scope` what stands in front of that word: nothing, or something like `xlink:`. -/
structure TagAttribute where
  scope : List Char
  word : List Char
  value : Option AttributeValue

namespace TagAttribute

/-- The whole name. -/
def name (a : TagAttribute) : List Char := a.scope ++ a.word

/-- An attribute as it is written. -/
def written (a : TagAttribute) : List Char := a.name ++ a.value.elim [] fun v => '=' :: v.written

/-- What a name and a value are made of. -/
structure Proper (a : TagAttribute) : Prop where
  scope : ∀ c ∈ a.scope, c ≠ '=' ∧ c ≠ '"' ∧ c ≠ '\'' ∧ isBlank c = false
  scopeEnd : ∀ c ∈ a.scope.getLast?, isNameChar c = false
  word : IsWord a.word
  value : ∀ v ∈ a.value, v.Proper

instance : DecidablePred Proper := fun a =>
  decidable_of_iff ((a.scope.all fun c => c != '=' && c != '"' && c != '\'' && !isBlank c) = true ∧
    (a.scope.getLast?.all fun c => !isNameChar c) = true ∧ IsWord a.word ∧
      ∀ v ∈ a.value, v.Proper) <| by
    simp only [List.all_eq_true, Option.all_eq_true, Bool.and_eq_true, bne_iff_ne, Bool.not_eq_true',
      and_assoc]
    exact ⟨fun ⟨hscope, hend, hword, hvalue⟩ => ⟨hscope, hend, hword, hvalue⟩,
      fun ha => ⟨ha.scope, ha.scopeEnd, ha.word, ha.value⟩⟩

/-- What an attribute is in a hash: its value, under the last word of its name. -/
def entry? (a : TagAttribute) : Option (List Char × AttributeValue) := a.value.map (a.word, ·)

end TagAttribute

/-- A list of attributes as it is written, with white space in between and perhaps around it. -/
inductive Spelled : List TagAttribute → List Char → Prop
  | nil (gap : List Char) (hgap : isBlankText gap = true) : Spelled [] gap
  | cons (gap : List Char) (a : TagAttribute) (as : List TagAttribute) (rest : List Char)
    (hgap : isBlankText gap = true) (ha : a.Proper) (hsep : ∀ c ∈ rest.head?, isBlank c = true)
    (hrest : Spelled as rest) : Spelled (a :: as) (gap ++ (a.written ++ rest))

/-! ## Reading them -/

theorem attributes_nil (n : Nat) : attributes n [] = [] := by
  cases n <;> rfl

theorem attributes_cons_of_not_word (hc : isWordChar c = false) (n : Nat) (s : List Char) :
    attributes n (c :: s) = attributes n s := by
  cases n with
  | zero => rfl
  | succ n => rw [attributes, attributes, List.dropWhile_cons_of_pos (by simp [hc])]

/-- A name with an equals sign behind it is an attribute. -/
theorem attributes_of_equals (hc : isWordChar c = true)
    (h : (c :: s).dropWhile isNameChar = '=' :: r) (n : Nat) :
    attributes (n + 1) (c :: s) = ((c :: s).takeWhile isNameChar, (AttributeValue.read r).1) ::
      attributes n (AttributeValue.read r).2 := by
  rw [attributes, List.dropWhile_cons_of_neg (by simp [hc])]
  dsimp only
  rw [drop_length_takeWhile]
  split
  · next r' he =>
    obtain rfl := (List.cons.inj (h.symm.trans he)).2
    rfl
  · next hne => exact absurd h (hne r)

/-- Any other name is passed over. -/
theorem attributes_of_not_equals (hc : isWordChar c = true)
    (h : ∀ r, (c :: s).dropWhile isNameChar ≠ '=' :: r) (n : Nat) :
    attributes (n + 1) (c :: s) = attributes n ((c :: s).dropWhile isNameChar) := by
  rw [attributes, List.dropWhile_cons_of_neg (by simp [hc])]
  dsimp only
  rw [drop_length_takeWhile]
  split
  · next r he => exact absurd he (h r)
  · rfl

/-- No name at the end of a text goes on behind it, or has an equals sign there. -/
def Parted (x t : List Char) : Prop :=
  ∀ c ∈ x.getLast?, isNameChar c = true → ∀ d ∈ t.head?, isNameChar d = false ∧ d ≠ '='

theorem Parted.suffix {y : List Char} (h : Parted x t) (hy : y <:+ x) : Parted y t := by
  rcases eq_or_ne y [] with rfl | hne
  · exact nofun
  · obtain ⟨z, rfl⟩ := hy
    rw [Parted, List.getLast?_append_of_ne_nil z hne] at h
    exact h

/-- What is left of a text behind the name that it starts with. -/
theorem dropWhile_append_of_parted (hc : isNameChar c = true) (h : Parted (c :: x) t)
    (hx : '=' ∉ c :: x) :
    (c :: (x ++ t)).dropWhile isNameChar = x.dropWhile isNameChar ++ t ∧
      ∀ r, x.dropWhile isNameChar ++ t ≠ '=' :: r := by
  rw [List.dropWhile_cons_of_pos hc, List.dropWhile_append]
  cases hrest : x.dropWhile isNameChar with
  | nil =>
    -- the name goes up to the end of the text
    have hname : ∀ d ∈ (c :: x), isNameChar d = true := by
      rw [List.forall_mem_cons]
      exact ⟨hc, List.dropWhile_eq_nil_iff.1 hrest⟩
    have hlast := List.getLast?_eq_some_getLast (List.cons_ne_nil c x)
    have hstop := h _ hlast (hname _ (List.getLast_mem _))
    cases t with
    | nil => exact ⟨rfl, nofun⟩
    | cons d t =>
      obtain ⟨hd, hne⟩ := hstop d rfl
      refine ⟨?_, fun r he => hne (List.cons.inj he).1⟩
      rw [List.isEmpty_nil, if_pos rfl, List.dropWhile_cons_of_neg (by simp [hd])]
      rfl
  | cons d y =>
    have hmem : d ∈ c :: x := by
      refine List.mem_cons_of_mem c ((List.dropWhile_sublist isNameChar).mem ?_)
      rw [hrest]
      exact List.mem_cons_self
    exact ⟨rfl, fun r he => hx ((List.cons.inj he).1 ▸ hmem)⟩

/-- Text without an equals sign is passed over. -/
theorem attributes_append_of_parted (hx : '=' ∉ x) (h : Parted x t) (hn : (x ++ t).length ≤ n) :
    ∃ m, t.length ≤ m ∧ attributes n (x ++ t) = attributes m t := by
  induction hk : x.length using Nat.strongRecOn generalizing x n with
  | ind k ih =>
    cases x with
    | nil => exact ⟨n, hn, rfl⟩
    | cons c x =>
      cases hc : isWordChar c with
      | false =>
        rw [List.cons_append, attributes_cons_of_not_word hc]
        refine ih x.length (by rw [← hk]; exact Nat.lt_succ_self _) ?_
          (h.suffix (List.suffix_cons c x)) (Nat.le_of_succ_le hn) rfl
        exact fun hmem => hx (List.mem_cons_of_mem c hmem)
      | true =>
        obtain ⟨hrest, hequals⟩ :=
          dropWhile_append_of_parted (isNameChar_of_isWordChar hc) h hx
        have hsub : (x.dropWhile isNameChar).Sublist x := List.dropWhile_sublist isNameChar
        have hlen := hsub.length_le
        obtain ⟨n, rfl⟩ : ∃ n', n = n' + 1 := ⟨n - 1, by
          rw [List.length_append, List.length_cons] at hn
          omega⟩
        rw [← hrest] at hequals
        rw [List.cons_append, attributes_of_not_equals hc hequals, hrest]
        refine ih _ ?_ ?_ (h.suffix ((List.dropWhile_suffix isNameChar).trans
          (List.suffix_cons c x))) ?_ rfl
        · rw [← hk, List.length_cons]
          omega
        · exact fun hmem => hx (List.mem_cons_of_mem c (hsub.mem hmem))
        · rw [List.length_append, List.length_cons] at hn
          rw [List.length_append]
          omega

theorem notMem_of_isBlankText (hc : isBlank c = false) (h : isBlankText s = true) : c ∉ s :=
  fun hmem => by
    rw [List.all_eq_true.1 h c hmem] at hc
    cases hc

/-- A name in front of an equals sign is read with its value. -/
theorem attributes_word {word : List Char} (hword : IsWord word) (n : Nat) (s : List Char) :
    attributes (n + 1) (word ++ '=' :: s) =
      (word, (AttributeValue.read s).1) :: attributes n (AttributeValue.read s).2 := by
  obtain ⟨⟨c, hhead, hc⟩, hname⟩ := hword
  obtain ⟨r, rfl⟩ := List.head?_eq_some_iff.1 hhead
  have hstop : ∀ x ∈ ('=' :: s).head?, isNameChar x = false := by
    intro x hx
    obtain rfl : '=' = x := Option.some.inj hx
    decide
  have htake : (c :: r ++ '=' :: s).takeWhile isNameChar = c :: r := by
    rw [takeWhile_append_of_stop hstop, List.takeWhile_eq_self_iff.2 hname]
  have hdrop : (c :: r ++ '=' :: s).dropWhile isNameChar = '=' :: s := by
    rw [← drop_length_takeWhile, htake, List.drop_left]
  rw [List.cons_append] at htake hdrop ⊢
  rw [attributes_of_equals hc hdrop, htake]

/-- The attributes of a list that have a value. -/
def entries (as : List TagAttribute) : List (List Char × AttributeValue) :=
  as.filterMap TagAttribute.entry?

/-- Of a list of attributes those are read that have a value, each under the last word of its
name. -/
theorem attributes_spelled {as : List TagAttribute} (h : Spelled as s) (hn : s.length ≤ n) :
    attributes n s = entries as := by
  induction h generalizing n with
  | nil gap hgap =>
    rw [← List.append_nil gap] at hn ⊢
    obtain ⟨m, -, hm⟩ := attributes_append_of_parted (notMem_of_isBlankText rfl hgap)
      (fun _ _ _ d hd => by cases hd) hn
    rw [hm, attributes_nil]
    rfl
  | cons gap a as rest hgap ha hsep hrest ih =>
    have hgapEnd : ∀ c ∈ gap.getLast?, isNameChar c = false := fun c hc =>
      not_isNameChar_of_isBlank (List.all_eq_true.1 hgap c (List.mem_of_getLast? hc))
    have hequals : '=' ∉ gap ++ a.scope := by
      rw [List.mem_append, not_or]
      exact ⟨notMem_of_isBlankText rfl hgap, fun hmem => (ha.scope _ hmem).1 rfl⟩
    cases hvalue : a.value with
    | none =>
      have hwritten : gap ++ (a.written ++ rest) = (gap ++ a.name) ++ rest := by
        simp [TagAttribute.written, hvalue]
      have hequals' : '=' ∉ gap ++ a.name := by
        rw [TagAttribute.name, ← List.append_assoc, List.mem_append, not_or]
        exact ⟨hequals, fun hmem => absurd (ha.word.2 _ hmem) (by decide)⟩
      have hparted : Parted (gap ++ a.name) rest := by
        intro _ _ _ d hd
        refine ⟨not_isNameChar_of_isBlank (hsep d hd), ?_⟩
        rintro rfl
        exact absurd (hsep _ hd) (by decide)
      rw [hwritten] at hn ⊢
      obtain ⟨m, hm, he⟩ := attributes_append_of_parted hequals' hparted hn
      rw [he, ih hm, entries, entries, List.filterMap_cons_none]
      rw [TagAttribute.entry?, hvalue, Option.map_none]
    | some v =>
      have hwritten : gap ++ (a.written ++ rest) =
          (gap ++ a.scope) ++ (a.word ++ '=' :: (v.written ++ rest)) := by
        simp [TagAttribute.written, TagAttribute.name, hvalue]
      have hparted : Parted (gap ++ a.scope) (a.word ++ '=' :: (v.written ++ rest)) := by
        intro c hc hname
        have hend : isNameChar c = false := by
          rw [List.getLast?_append, Option.mem_def, Option.or_eq_some_iff] at hc
          rcases hc with hc | ⟨-, hc⟩
          · exact ha.scopeEnd c hc
          · exact hgapEnd c hc
        rw [hend] at hname
        cases hname
      rw [hwritten] at hn ⊢
      obtain ⟨m, hm, he⟩ := attributes_append_of_parted hequals hparted hn
      rw [List.length_append, List.length_cons, List.length_append] at hm
      obtain ⟨m, rfl⟩ : ∃ m', m = m' + 1 := ⟨m - 1, by omega⟩
      rw [he, attributes_word ha.word, AttributeValue.read_written (ha.value v hvalue) hsep,
        ih (by omega), entries, entries, List.filterMap_cons_some]
      rw [TagAttribute.entry?, hvalue, Option.map_some]

/-- The names in a hash are those of the attributes if each is a single word and has a value. -/
theorem map_fst_entries_iff {as : List TagAttribute} :
    (entries as).map Prod.fst = as.map TagAttribute.name ↔
      ∀ a ∈ as, a.scope = [] ∧ a.value.isSome = true := by
  have hwords (hall : ∀ a ∈ as, a.value.isSome = true) :
      (entries as).map Prod.fst = as.map TagAttribute.word := by
    rw [entries, List.map_filterMap, ← List.filterMap_eq_map]
    refine List.filterMap_congr fun a ha => ?_
    obtain ⟨v, hv⟩ := Option.isSome_iff_exists.1 (hall a ha)
    rw [TagAttribute.entry?, hv]
    rfl
  constructor
  · intro h
    have hlen : (as.filterMap TagAttribute.entry?).length = as.length := by
      simpa [entries] using congrArg List.length h
    have hall (a : TagAttribute) (ha : a ∈ as) : a.value.isSome = true := by
      have := List.filterMap_length_eq_length.1 hlen a ha
      rwa [TagAttribute.entry?, Option.isSome_map] at this
    rw [hwords hall, List.map_inj_left] at h
    exact fun a ha => ⟨List.append_left_eq_self.1 (h a ha).symm, hall a ha⟩
  · intro h
    rw [hwords fun a ha => (h a ha).2, List.map_inj_left]
    intro a ha
    rw [TagAttribute.name, (h a ha).1, List.nil_append]

/-! ## Literals -/

/-- The text of a literal between single quotes, from behind the first of them, and what follows the
literal.  A backslash in front of a quote or of another backslash stands for that character, and any
other backslash for itself. -/
def singleQuoted? : List Char → Option (List Char × List Char)
  | [] => none
  | '\'' :: r => some ([], r)
  | '\\' :: '\'' :: r => (singleQuoted? r).map fun p => ('\'' :: p.1, p.2)
  | '\\' :: '\\' :: r => (singleQuoted? r).map fun p => ('\\' :: p.1, p.2)
  | c :: r => (singleQuoted? r).map fun p => (c :: p.1, p.2)

/-- No character of a text is read otherwise than it stands when single quotes are put around it:
there is no such quote in it, and behind every backslash comes another character. -/
def EscapeFree (text : List Char) : Prop :=
  '\'' ∉ text ∧ ∀ b, '\\' :: b <:+ text → ∃ c ∈ b.head?, c ≠ '\\'

theorem escapeFree_nil : EscapeFree [] :=
  ⟨List.not_mem_nil, fun _ h => absurd (List.suffix_nil.1 h) (List.cons_ne_nil _ _)⟩

theorem escapeFree_cons : EscapeFree (c :: text) ↔
    c ≠ '\'' ∧ (c = '\\' → ∃ d ∈ text.head?, d ≠ '\\') ∧ EscapeFree text := by
  rw [EscapeFree, EscapeFree, List.mem_cons, not_or]
  constructor
  · rintro ⟨⟨hquote, hmem⟩, hslash⟩
    refine ⟨Ne.symm hquote, ?_, hmem, fun b hb => hslash b (hb.trans (List.suffix_cons c text))⟩
    rintro rfl
    exact hslash text (List.suffix_refl _)
  · rintro ⟨hquote, hslash, hmem, hrest⟩
    refine ⟨⟨Ne.symm hquote, hmem⟩, fun b hb => ?_⟩
    rcases List.suffix_cons_iff.1 hb with he | hb
    · obtain ⟨rfl, rfl⟩ := List.cons.inj he
      exact hslash rfl
    · exact hrest b hb

/-- A literal is longer than its text. -/
theorem length_of_singleQuoted? (h : singleQuoted? s = some (text, r)) :
    text.length + r.length < s.length := by
  fun_induction singleQuoted? s generalizing text with
  | case1 => cases h
  | case2 s =>
    obtain ⟨rfl, rfl⟩ := Prod.mk.inj (Option.some.inj h)
    rw [List.length_nil, Nat.zero_add]
    exact Nat.lt_succ_self _
  | case3 s ih | case4 s ih | case5 c s _ _ _ ih =>
    obtain ⟨p, hp, he⟩ := Option.map_eq_some_iff.1 h
    obtain ⟨rfl, rfl⟩ := Prod.mk.inj he
    have hlt := ih hp
    simp only [List.length_cons]
    omega

/-- A character that starts no escape and does not end the literal belongs to its text. -/
theorem singleQuoted?_cons_iff (hc : c ≠ '\'')
    (hs : c = '\\' → ∀ d ∈ s.head?, d ≠ '\'' ∧ d ≠ '\\') :
    singleQuoted? (c :: s) = some (c :: text, r) ↔ singleQuoted? s = some (text, r) := by
  have hcons : singleQuoted? (c :: s) = (singleQuoted? s).map fun p => (c :: p.1, p.2) := by
    rw [singleQuoted?]
    · exact hc
    · rintro r rfl rfl
      exact (hs rfl _ rfl).1 rfl
    · rintro r rfl rfl
      exact (hs rfl _ rfl).2 rfl
  rw [hcons, Option.map_eq_some_iff]
  constructor
  · rintro ⟨p, hp, he⟩
    obtain ⟨htail, rfl⟩ := Prod.mk.inj he
    obtain rfl := (List.cons.inj htail).2
    exact hp
  · exact fun h => ⟨_, h, rfl⟩

/-- An escaped quote leaves no backslash in the text. -/
theorem singleQuoted?_escapedQuote_ne (s : List Char) :
    singleQuoted? ('\\' :: '\'' :: s) ≠ some ('\\' :: text, r) := by
  intro h
  obtain ⟨p, -, he⟩ := Option.map_eq_some_iff.1 h
  exact absurd (List.cons.inj (Prod.mk.inj he).1).1 (by decide)

/-- Single quotes make the literal of exactly those texts in which nothing is read as an escape. -/
theorem singleQuoted?_iff (r : List Char) :
    singleQuoted? (text ++ '\'' :: r) = some (text, r) ↔ EscapeFree text := by
  induction text with
  | nil => exact iff_of_true rfl escapeFree_nil
  | cons c text ih =>
    rw [escapeFree_cons, List.cons_append]
    by_cases hquote : c = '\''
    · subst hquote
      exact iff_of_false (fun h => by cases h) (fun h => h.1 rfl)
    by_cases hslash : c = '\\'
    · subst hslash
      cases text with
      | nil =>
        exact iff_of_false (singleQuoted?_escapedQuote_ne r) fun h => by
          obtain ⟨d, hd, -⟩ := h.2.1 rfl
          cases hd
      | cons d text =>
        by_cases hd : d = '\''
        · subst hd
          exact iff_of_false (singleQuoted?_escapedQuote_ne _) fun h =>
            h.2.2.1 List.mem_cons_self
        by_cases hd' : d = '\\'
        · subst hd'
          -- of two backslashes only one is read, so the text of the literal is shorter
          refine iff_of_false (fun h => ?_) fun h => ?_
          · obtain ⟨p, (hp : singleQuoted? (text ++ '\'' :: r) = some p), he⟩ :=
              Option.map_eq_some_iff.1 h
            obtain ⟨htext, hrest⟩ := Prod.mk.inj he
            have hlen := length_of_singleQuoted? hp
            rw [(List.cons.inj htext).2, hrest] at hlen
            simp only [List.length_cons, List.length_append] at hlen
            omega
          · obtain ⟨x, hx, hne⟩ := h.2.1 rfl
            exact hne (Option.some.inj hx).symm
        · rw [singleQuoted?_cons_iff hquote, ih]
          · exact ⟨fun h => ⟨hquote, fun _ => ⟨d, rfl, hd'⟩, h⟩, fun h => h.2.2⟩
          · rintro - x hx
            obtain rfl : d = x := Option.some.inj hx
            exact ⟨hd, hd'⟩
    · rw [singleQuoted?_cons_iff hquote (fun he => absurd he hslash), ih]
      exact ⟨fun h => ⟨hquote, fun he => absurd he hslash, h⟩, fun h => h.2.2⟩

/-! ## The line -/

theorem parenthesized?_append (hopen : '(' ∉ inner) (hclose : ')' ∉ inner) (rest : List Char) :
    parenthesized? ('(' :: (inner ++ ')' :: rest)) = some (inner, rest) := by
  have hstop : ∀ c ∈ (')' :: rest).head?, (c != '(' && c != ')') = false := by
    intro c hc
    obtain rfl : ')' = c := Option.some.inj hc
    rfl
  have hrun : (inner ++ ')' :: rest).takeWhile (fun c => c != '(' && c != ')') = inner := by
    rw [takeWhile_append_of_stop hstop, List.takeWhile_eq_self_iff]
    intro c hc
    have hne : c ≠ '(' := fun he => hopen (he ▸ hc)
    have hne' : c ≠ ')' := fun he => hclose (he ▸ hc)
    simp [hne, hne']
  rw [parenthesized?, hrun, List.drop_left]
  rfl

/-- The parenthesis behind a tag becomes the hash of the attributes that are read in it, if there is
one. -/
theorem hashAttributes_eq (hindent : isBlankText indent = true) (htag : IsTag tag)
    (hopen : '(' ∉ inner) (hclose : ')' ∉ inner) (rest : List Char) :
    hashAttributes (indent ++ (tag ++ '(' :: (inner ++ ')' :: rest))) =
      indent ++ (tag ++ ((if attributes inner.length inner = [] then '(' :: (inner ++ [')'])
        else toHash (attributes inner.length inner)) ++ rest)) := by
  have hbody : StartsInk (tag ++ '(' :: (inner ++ ')' :: rest)) :=
    marked_hashAttributes.startsInk_of_startsWith (htag.startsWith.append _)
  have hlen : tag.length ≤ (indent ++ (tag ++ '(' :: (inner ++ ')' :: rest))).length := by
    rw [List.length_append, List.length_append]
    omega
  have hends : EndsTag ('(' :: (inner ++ ')' :: rest)) :=
    endsTag_of_head (by decide) (by decide) _
  rw [hashAttributes, trimStart_append hindent, hbody.trimStart_eq,
    htag.segments_append hends hlen, leading_append hindent, hbody.leading_eq, List.append_nil]
  dsimp only
  rw [if_neg htag.1, parenthesized?_append hopen hclose]
  dsimp only
  split
  · next hnone => simp [hnone]
  · next hsome =>
    rw [if_neg hsome]
    simp only [List.append_assoc]

/-- The parenthesis behind a tag becomes the hash of its attributes that have a value, each under
the last word of its name; without any such attribute, the line stays as it is.  So all attributes
are kept, with their names, exactly when each is a single word with a value.  Quoted text without
interpolation becomes the literal of that text exactly when nothing in it is read as an escape. -/
theorem hashAttributes_spelled {as : List TagAttribute} (hindent : isBlankText indent = true)
    (htag : IsTag tag) (has : Spelled as inner) (hopen : '(' ∉ inner) (hclose : ')' ∉ inner)
    (rest : List Char) :
    hashAttributes (indent ++ (tag ++ '(' :: (inner ++ ')' :: rest))) =
        indent ++ (tag ++ ((if entries as = [] then '(' :: (inner ++ [')'])
          else toHash (entries as)) ++ rest)) ∧
      ((entries as).map Prod.fst = as.map TagAttribute.name ↔
        ∀ a ∈ as, a.scope = [] ∧ a.value.isSome = true) ∧
      ∀ e ∈ entries as, ∀ text ∈ e.2.literalText?, e.2.toHash = '\'' :: (text ++ ['\'']) ∧
        ∀ r, singleQuoted? (text ++ '\'' :: r) = some (text, r) ↔ EscapeFree text := by
  refine ⟨?_, map_fst_entries_iff, fun e _ text htext => ⟨?_, singleQuoted?_iff⟩⟩
  · rw [hashAttributes_eq hindent htag hopen hclose,
      attributes_spelled has (Nat.le_refl inner.length)]
  · exact AttributeValue.toHash_of_literalText? htext

/-- An attribute with an apostrophe in its text, one with a scope, and one without a value: the
literal breaks off at the apostrophe, the scope is lost, and so is the last attribute. -/
theorem hashAttributes_spelled_link :
    let as : List TagAttribute := [⟨[], "title".toList, some (.double "it's".toList)⟩,
      ⟨"xlink:".toList, "href".toList, some (.single "/".toList)⟩, ⟨[], "hidden".toList, none⟩]
    let indent := [' ', ' ']
    let tag := "%a.b".toList
    let inner := "title=\"it's\" xlink:href='/' hidden".toList
    isBlankText indent = true ∧ IsTag tag ∧ Spelled as inner ∧ '(' ∉ inner ∧ ')' ∉ inner ∧
      hashAttributes (indent ++ (tag ++ '(' :: (inner ++ ')' :: " x".toList))) =
        "  %a.b\x7btitle: 'it's', href: '/'\x7d x".toList ∧
      (entries as).map Prod.fst ≠ as.map TagAttribute.name ∧
      singleQuoted? ("it's".toList ++ ['\'']) ≠ some ("it's".toList, []) := by
  intro as indent tag inner
  have hindent : isBlankText indent = true := rfl
  have htag : IsTag tag := ⟨by decide, by decide⟩
  have hspelled : Spelled as inner :=
    .cons [] as[0] as.tail " xlink:href='/' hidden".toList rfl (by decide)
      (fun c hc => by cases hc; rfl)
      (.cons [' '] as[1] as.tail.tail " hidden".toList rfl (by decide)
        (fun c hc => by cases hc; rfl)
        (.cons [' '] as[2] [] [] rfl (by decide) (fun c hc => by cases hc) (.nil [] rfl)))
  obtain ⟨hline, hnames, hvalues⟩ := hashAttributes_spelled hindent htag hspelled (by decide)
    (by decide) " x".toList
  refine ⟨hindent, htag, hspelled, by decide, by decide, hline.trans (by decide +kernel), ?_, ?_⟩
  · exact fun he => absurd (hnames.1 he) (by decide)
  · obtain ⟨-, hdenotes⟩ := hvalues _ List.mem_cons_self "it's".toList rfl
    exact fun he => ((hdenotes []).1 he).1 (by decide)

/-- Of an attribute without a value nothing is left beside one that has a value. -/
theorem not_hashAttributes_keeps_names : ¬ ∀ (indent tag inner rest : List Char)
    (as : List TagAttribute), isBlankText indent = true → IsTag tag → Spelled as inner →
      '(' ∉ inner → ')' ∉ inner →
      hashAttributes (indent ++ (tag ++ '(' :: (inner ++ ')' :: rest))) =
          indent ++ (tag ++ '(' :: (inner ++ ')' :: rest)) ∨
        ∀ a ∈ as, a.name <:+:
          hashAttributes (indent ++ (tag ++ '(' :: (inner ++ ')' :: rest))) := by
  intro h
  have hspelled : Spelled [⟨[], "disabled".toList, none⟩,
      ⟨[], "type".toList, some (.double "text".toList)⟩] "disabled type=\"text\"".toList :=
    .cons [] _ _ " type=\"text\"".toList rfl (by decide) (fun c hc => by cases hc; rfl)
      (.cons [' '] _ _ [] rfl (by decide) (fun c hc => by cases hc) (.nil [] rfl))
  have hkept := h [] "%input".toList _ [] _ rfl ⟨by decide, by decide⟩ hspelled (by decide)
    (by decide)
  exact absurd hkept (by decide +kernel)

end HamlServer.Correct
