import HamlServer.Files.Scan
import HamlServer.Proofs.Text.Cut
import HamlServer.Proofs.Text.Utf8
import HamlServer.Url.FileUrl
import Mathlib.Data.List.Basic

/-!
# Paths to names under a directory

A scan puts the names of a file one by one behind the path of the scanned directory.  As long as
these are names that a file can have, each of them is one more piece of the path and one more of its
components.  So it makes no difference whether names are put behind a directory one by one, or
joined by slashes all at once.

* `octets_below`, `splitOn_below`: what a path to names is made of.
* `join_join`: a path with one piece more behind it.
* `join_intercalate`: names that are joined by slashes.
* `getLast?_components_join`: a name behind a path is its last component.
* `components_flatMap_slash`: names behind the root are the components of their path.
* `ofPath?_congr`: paths with the same components have the same URL.
-/

namespace HamlServer

/-- A name that a file can have: it is one component of a path. -/
structure IsName (b : Bytes) : Prop where
  ne_nil : b ≠ []
  ne_dot : b ≠ [46]
  ne_dots : b ≠ [46, 46]
  slash_notMem : slash ∉ b

instance (b : Bytes) : Decidable (IsName b) :=
  decidable_of_iff (b ≠ [] ∧ b ≠ [46] ∧ b ≠ [46, 46] ∧ slash ∉ b)
    ⟨fun h => ⟨h.1, h.2.1, h.2.2.1, h.2.2.2⟩,
      fun h => ⟨h.ne_nil, h.ne_dot, h.ne_dots, h.slash_notMem⟩⟩

variable {b n : Bytes} {names : List Bytes} {p q : Path}

theorem isName_of_length (hlength : 3 ≤ b.length) (hslash : slash ∉ b) : IsName b := by
  refine ⟨?_, ?_, ?_, hslash⟩
  · rintro rfl
    simp at hlength
  · rintro rfl
    simp at hlength
  · rintro rfl
    simp at hlength

theorem IsName.stepPlace_eq (h : IsName n) (place : Place) :
    FileTree.stepPlace place n = place ++ [n] := by
  rw [FileTree.stepPlace, if_neg (not_or_intro h.ne_nil h.ne_dot), if_neg h.ne_dots]

namespace Path

/-- The path to names under a base. -/
def below (base : Path) (names : List Bytes) : Path := names.foldl (fun p n => p.join ⟨n⟩) base

@[simp] theorem below_nil (p : Path) : p.below [] = p := rfl

@[simp] theorem below_cons (p : Path) (n : Bytes) (names : List Bytes) :
    p.below (n :: names) = (p.join ⟨n⟩).below names := rfl

theorem below_append (p : Path) (names more : List Bytes) :
    p.below (names ++ more) = (p.below names).below more := List.foldl_append

/-- A path that a slash and a name go behind. -/
structure TakesName (p : Path) : Prop where
  ne_nil : p.octets ≠ []
  getLast?_ne : p.octets.getLast? ≠ some slash

instance (p : Path) : Decidable p.TakesName :=
  decidable_of_iff (p.octets ≠ [] ∧ p.octets.getLast? ≠ some slash)
    ⟨fun h => ⟨h.1, h.2⟩, fun h => ⟨h.ne_nil, h.getLast?_ne⟩⟩

/-! ## Joining -/

theorem isAbsolute_of_notMem (h : slash ∉ p.octets) : p.isAbsolute = false := by
  rw [isAbsolute, beq_eq_false_iff_ne]
  exact fun hhead => h (List.mem_of_head? hhead)

theorem octets_join (hp : p.TakesName) (hq : q.isAbsolute = false) :
    (p.join q).octets = p.octets ++ slash :: q.octets := by
  have hne : p.octets.isEmpty = false := by
    rw [List.isEmpty_eq_false_iff]
    exact hp.ne_nil
  unfold join
  rw [hq, hne, Bool.false_or, if_neg Bool.false_ne_true, if_neg hp.getLast?_ne]

/-- Whatever stands in front of it, a path that takes a name still does. -/
theorem TakesName.join (h : q.TakesName) (p : Path) : (p.join q).TakesName := by
  have hback (front : Bytes) : TakesName ⟨front ++ q.octets⟩ := by
    refine ⟨List.append_ne_nil_of_right_ne_nil front h.ne_nil, ?_⟩
    obtain ⟨x, hx⟩ := Option.isSome_iff_exists.1 (List.getLast?_isSome.2 h.ne_nil)
    have hlast : (front ++ q.octets).getLast? = q.octets.getLast? := by
      rw [List.getLast?_append, hx, Option.some_or]
    exact fun he => h.getLast?_ne (hlast ▸ he)
  unfold Path.join
  split
  · exact h
  · split
    · exact hback p.octets
    · rw [List.append_cons]
      exact hback (p.octets ++ [slash])

theorem isAbsolute_join (hp : p.isAbsolute = true) (q : Path) : (p.join q).isAbsolute = true := by
  have hfront (back : Bytes) : isAbsolute ⟨p.octets ++ back⟩ = true := by
    unfold isAbsolute at hp ⊢
    rw [beq_iff_eq] at hp ⊢
    rw [List.head?_append, hp]
    rfl
  unfold join
  split
  · next h =>
    have hne : p.octets.isEmpty = false := by
      cases hnil : p.octets with
      | nil => rw [isAbsolute, hnil] at hp; cases hp
      | cons _ _ => rfl
    rwa [hne, Bool.or_false] at h
  · split
    · exact hfront q.octets
    · exact hfront (slash :: q.octets)

theorem isAbsolute_below (hp : p.isAbsolute = true) (names : List Bytes) :
    (p.below names).isAbsolute = true := by
  induction names generalizing p with
  | nil => exact hp
  | cons n names ih => exact ih (isAbsolute_join hp ⟨n⟩)

/-- A path of text starts at the root exactly if the text starts with a slash. -/
theorem isAbsolute_ofString (s : String) :
    (ofString s).isAbsolute = (s.toList.head? == some '/') := by
  rw [isAbsolute, ofString, Utf8.encode_eq_flatMap, Bool.eq_iff_iff, beq_iff_eq, beq_iff_eq]
  cases hs : s.toList with
  | nil => simp
  | cons c r =>
    rw [List.flatMap_cons, List.head?_append, List.head?_cons, Option.some_inj]
    constructor
    · intro h
      have hmem : slash ∈ String.utf8EncodeChar c := by
        obtain ⟨x, b, hx⟩ := List.exists_cons_of_ne_nil (String.utf8EncodeChar_ne_nil (c := c))
        rw [hx, List.head?_cons, Option.some_or, Option.some_inj] at h
        rw [hx, h]
        exact List.mem_cons_self
      exact Char.toNat_inj.1 (Utf8.toNat_of_mem_utf8EncodeChar (by decide) hmem)
    · rintro rfl
      rfl

/-- A path with one piece more behind it, taken from a base. -/
theorem join_join (p : Path) {q r : Path} (hq : q.TakesName) (hrel : q.isAbsolute = false)
    (hr : r.isAbsolute = false) : (p.join q).join r = p.join ⟨q.octets ++ slash :: r.octets⟩ := by
  have hoctets : (p.join q).octets ++ slash :: r.octets =
      (p.join ⟨q.octets ++ slash :: r.octets⟩).octets := by
    have hrel' : isAbsolute ⟨q.octets ++ slash :: r.octets⟩ = false := by
      obtain ⟨x, b, hx⟩ := List.exists_cons_of_ne_nil hq.ne_nil
      rw [isAbsolute, hx] at hrel ⊢
      exact hrel
    unfold join
    rw [hrel, hrel', Bool.false_or]
    split
    · rfl
    · split
      · exact List.append_assoc ..
      · exact List.append_assoc ..
  have hjoin := octets_join (hq.join p) hr
  exact congrArg Path.mk (hjoin.trans hoctets)

/-! ## Names behind a path -/

theorem takesName_of_isName (h : IsName n) : TakesName ⟨n⟩ :=
  ⟨h.ne_nil, fun hlast => h.slash_notMem (List.mem_of_getLast? hlast)⟩

theorem octets_below (hp : p.TakesName) (hnames : ∀ n ∈ names, IsName n) :
    (p.below names).octets = p.octets ++ names.flatMap (slash :: ·) := by
  induction names generalizing p with
  | nil => simp
  | cons n names ih =>
    have hn : IsName n := hnames n List.mem_cons_self
    rw [below_cons, ih ((takesName_of_isName hn).join p)
      fun m hm => hnames m (List.mem_cons_of_mem n hm),
      octets_join hp (isAbsolute_of_notMem hn.slash_notMem), List.flatMap_cons, List.append_assoc]

/-- Each name is one more piece of the path. -/
theorem splitOn_below (hp : p.TakesName) (hnames : ∀ n ∈ names, IsName n) :
    (p.below names).octets.splitOn slash = p.octets.splitOn slash ++ names := by
  induction names generalizing p with
  | nil => simp
  | cons n names ih =>
    have hn : IsName n := hnames n List.mem_cons_self
    rw [below_cons, ih ((takesName_of_isName hn).join p)
      fun m hm => hnames m (List.mem_cons_of_mem n hm),
      octets_join hp (isAbsolute_of_notMem hn.slash_notMem), List.splitOn_append_cons_self,
      List.splitOn_eq_singleton hn.slash_notMem, List.append_assoc, List.singleton_append]

theorem isAbsolute_below_eq (hp : p.TakesName) (hnames : ∀ n ∈ names, IsName n) :
    (p.below names).isAbsolute = p.isAbsolute := by
  obtain ⟨x, r, hx⟩ := List.exists_cons_of_ne_nil hp.ne_nil
  rw [isAbsolute, isAbsolute, octets_below hp hnames, hx]
  rfl

theorem slash_cons_intercalate (hne : names ≠ []) :
    slash :: List.intercalate [slash] names = names.flatMap (slash :: ·) := by
  induction names with
  | nil => exact absurd rfl hne
  | cons n names ih =>
    cases names with
    | nil => simp
    | cons m names =>
      rw [List.intercalate_cons_cons, List.flatMap_cons, ← ih (List.cons_ne_nil m names)]
      simp

/-- Names that are joined by slashes first lead to the same path. -/
theorem join_intercalate (hp : p.TakesName) (hnames : ∀ n ∈ names, IsName n) (hne : names ≠ []) :
    p.join ⟨List.intercalate [slash] names⟩ = p.below names := by
  have hrel : isAbsolute ⟨List.intercalate [slash] names⟩ = false := by
    obtain ⟨n, rest, rfl⟩ := List.exists_cons_of_ne_nil hne
    have hn : IsName n := hnames n List.mem_cons_self
    obtain ⟨x, r, rfl⟩ := List.exists_cons_of_ne_nil hn.ne_nil
    have hx : slash ≠ x := fun he => hn.slash_notMem (he ▸ List.mem_cons_self)
    rw [isAbsolute, beq_eq_false_iff_ne]
    cases rest with
    | nil => simpa using hx.symm
    | cons m rest => simpa [List.intercalate_cons_cons] using hx.symm
  have hoctets : (p.join ⟨List.intercalate [slash] names⟩).octets = (p.below names).octets := by
    rw [octets_join hp hrel, octets_below hp hnames, slash_cons_intercalate hne]
  exact congrArg Path.mk hoctets

/-! ## URLs -/

theorem pieceComponent_ne_root (piece : Bytes) : pieceComponent piece ≠ some .root := by
  unfold pieceComponent
  intro h
  split at h
  · cases h
  · split at h
    · cases h
    · cases h

/-- A path is absolute exactly where its first component is the root. -/
theorem isAbsolute_iff_head? : p.isAbsolute = true ↔ p.components.head? = some .root := by
  unfold components
  cases h : p.isAbsolute with
  | true => simp
  | false =>
    have hpieces : ((p.octets.splitOn slash).filterMap pieceComponent).head? ≠ some .root := by
      intro hhead
      obtain ⟨piece, -, hpiece⟩ := List.mem_filterMap.1 (List.mem_of_head? hhead)
      exact pieceComponent_ne_root piece hpiece
    by_cases hdot : (p.octets.splitOn slash).head? = some [46]
    · simp [hdot]
    · simpa [hdot] using hpieces

theorem isAbsolute_of_isUnder {base : Path} (hbase : base.isAbsolute = true)
    (h : p.isUnder base = true) : p.isAbsolute = true := by
  rw [isAbsolute_iff_head?] at hbase ⊢
  obtain ⟨rest, hrest⟩ := List.isPrefixOf_iff_prefix.1 h
  rw [← hrest, List.head?_append, hbase, Option.some_or]

theorem isAbsolute_of_parent? (hp : p.isAbsolute = true) (h : p.parent? = some q) :
    q.isAbsolute = true := by
  obtain ⟨cs, hcs⟩ := List.head?_eq_some_iff.1 (isAbsolute_iff_head?.1 hp)
  rw [parent?, hcs] at h
  cases cs with
  | nil => cases h
  | cons c cs =>
    rw [List.dropLast_cons_cons] at h
    split at h
    · cases h
    · cases h
    · obtain rfl := Option.some.inj h
      rfl

/-! ## The last component -/

theorem pieceComponent_of_isName (hn : IsName n) : pieceComponent n = some (.name n) := by
  rw [pieceComponent, if_neg (not_or_intro hn.ne_nil hn.ne_dot), if_neg hn.ne_dots]

/-- A name behind a path is its last piece. -/
theorem exists_splitOn_join (p : Path) (hn : IsName n) :
    ∃ front, (p.join ⟨n⟩).octets.splitOn slash = front ++ [n] := by
  have hrel : isAbsolute ⟨n⟩ = false := isAbsolute_of_notMem hn.slash_notMem
  have hbehind (front : Bytes) :
      (front ++ slash :: n).splitOn slash = front.splitOn slash ++ [n] := by
    rw [List.splitOn_append_cons_self, List.splitOn_eq_singleton hn.slash_notMem]
  rw [join, hrel, Bool.false_or]
  split
  · exact ⟨[], List.splitOn_eq_singleton hn.slash_notMem⟩
  · split
    · next hlast =>
      obtain ⟨front, hfront⟩ := List.getLast?_eq_some_iff.1 hlast
      exact ⟨front.splitOn slash, by rw [hfront, ← List.append_cons, hbehind]⟩
    · exact ⟨p.octets.splitOn slash, hbehind p.octets⟩

theorem getLast?_components_join (p : Path) (hn : IsName n) :
    (p.join ⟨n⟩).components.getLast? = some (.name n) := by
  obtain ⟨front, hfront⟩ := exists_splitOn_join p hn
  simp only [components, hfront, List.filterMap_append, List.filterMap_cons_some
    (pieceComponent_of_isName hn), List.filterMap_nil, ← List.append_assoc, List.getLast?_concat]

/-! ## Names behind the root -/

/-- A slash behind a path adds no component. -/
theorem components_concat_slash (h : b ≠ []) : components ⟨b ++ [slash]⟩ = components ⟨b⟩ := by
  obtain ⟨x, r, rfl⟩ := List.exists_cons_of_ne_nil h
  have hpieces : ((x :: r) ++ [slash]).splitOn slash = (x :: r).splitOn slash ++ [[]] := by
    rw [List.splitOn_append_cons_self, List.splitOn_nil]
  have hempty : [([] : Bytes)].filterMap pieceComponent = [] := rfl
  have habsolute : isAbsolute ⟨(x :: r) ++ [slash]⟩ = isAbsolute ⟨x :: r⟩ := rfl
  obtain ⟨piece, pieces, hp⟩ := List.exists_cons_of_ne_nil (List.splitOn_ne_nil slash (x :: r))
  unfold components
  simp only [habsolute, hpieces, List.filterMap_append, hempty, List.append_nil]
  rw [hp, List.cons_append, List.head?_cons, List.head?_cons]

/-- The octets of names behind the root. -/
theorem components_flatMap_slash (hnames : ∀ n ∈ names, IsName n) (hne : names ≠ []) :
    components ⟨names.flatMap (slash :: ·)⟩ = .root :: names.map .name := by
  have hpieces : (names.flatMap (slash :: ·)).splitOn slash = [] :: names := by
    have hslash : ∀ n ∈ names, slash ∉ n := fun n hn => (hnames n hn).slash_notMem
    rw [← slash_cons_intercalate hne, ← List.nil_append (slash :: _),
      List.splitOn_append_cons_self, List.splitOn_nil, List.splitOn_intercalate slash hslash hne,
      List.singleton_append]
  have hfound : names.filterMap pieceComponent = names.map .name :=
    List.filterMap_eq_map_iff_forall_eq_some.2 fun n hn => pieceComponent_of_isName (hnames n hn)
  have habsolute : isAbsolute ⟨names.flatMap (slash :: ·)⟩ = true := by
    obtain ⟨n, rest, rfl⟩ := List.exists_cons_of_ne_nil hne
    rfl
  have hempty : pieceComponent [] = none := rfl
  unfold components
  simp only [habsolute, if_true, hpieces, List.filterMap_cons, hempty, hfound,
    List.singleton_append]

/-- The components of a path that are names are names that a file can have. -/
theorem isName_of_mem_components (h : .name n ∈ p.components) : IsName n := by
  unfold components at h
  rcases List.mem_append.1 h with hfront | hpieces
  · split at hfront
    · exact absurd (List.mem_singleton.1 hfront) nofun
    · split at hfront
      · exact absurd (List.mem_singleton.1 hfront) nofun
      · exact absurd hfront List.not_mem_nil
  · obtain ⟨piece, hmem, hpiece⟩ := List.mem_filterMap.1 hpieces
    unfold pieceComponent at hpiece
    split at hpiece
    · cases hpiece
    · next hempty =>
      split at hpiece
      · cases hpiece
      · next hdots =>
        obtain rfl : piece = n := Component.name.inj (Option.some.inj hpiece)
        rw [not_or] at hempty
        exact ⟨hempty.1, hempty.2, hdots, (Text.of_mem_splitOn hmem).1⟩

end Path

/-- Paths with the same components have the same URL. -/
theorem Url.ofPath?_congr (h : p.same q = true) : ofPath? p = ofPath? q := by
  have hcomponents : p.components = q.components := by
    rwa [Path.same, beq_iff_eq] at h
  have habs : p.isAbsolute = q.isAbsolute := by
    rw [Bool.eq_iff_iff, Path.isAbsolute_iff_head?, Path.isAbsolute_iff_head?, hcomponents]
  rw [ofPath?, ofPath?, habs, hcomponents]

theorem Url.isSome_ofPath? (p : Path) : (ofPath? p).isSome = p.isAbsolute := by
  unfold ofPath?
  cases p.isAbsolute with
  | true => rfl
  | false => rfl

end HamlServer
