import HamlServer.Proofs.Rails.Partial
import HamlServer.Proofs.Text.Decimal
import HamlServer.Proofs.Text.Lossy
import HamlServer.Proofs.Text.Order
import HamlServer.Proofs.Workspace.Partials
import Mathlib.Data.List.Forall2
import Mathlib.Data.List.Nodup

/-!
# The nearest partial first

Candidates are sorted by a text that begins with the distance in three digits.  As long as no
distance needs a fourth, that is the order of distances as numbers, and among partials of one
distance that of their names.  A file is taken for a partial by the name that it is shown under; as
a backslash is shown as a slash, only what stands behind the last one counts.  And of more files
than a scan takes, not all are seen.

* `sortText_lt_iff`: the order of sort texts.
* `isSome_partialOf?_iff`: the files that are taken for partials.
* `partialItems_nearest`: the candidates, their order, and the one that is selected.
* `length_partialItems_le`: how many candidates there are at most.
-/

namespace HamlServer.Suggest

open Text Template Rails

variable {d : Directory} {views document : Path} {f : Scanned} {p q : Partial} {m n : Nat}
  {s t : String} {b : Bytes} {line : List Char} {quote : Char}

/-! ## Sort texts -/

theorem digitChar_lt_digitChar_iff (hm : m < 10) (hn : n < 10) :
    m.digitChar < n.digitChar ↔ m < n := by
  have h : ∀ m < 10, ∀ n < 10, m.digitChar < n.digitChar ↔ m < n := by decide
  exact h m hm n hn

theorem digitChar_eq_digitChar_iff (hm : m < 10) (hn : n < 10) :
    m.digitChar = n.digitChar ↔ m = n := by
  have h : ∀ m < 10, ∀ n < 10, m.digitChar = n.digitChar ↔ m = n := by decide
  exact h m hm n hn

theorem toList_threeDigits_eq (n : Nat) :
    (threeDigits n).toList =
      List.replicate (3 - (Nat.toDigits 10 n).length) '0' ++ Nat.toDigits 10 n := by
  have hnumeral : toString n = String.ofList (Nat.toDigits 10 n) := Nat.repr_eq_ofList_toDigits
  rw [threeDigits, hnumeral, String.toList_append, String.toList_ofList, String.toList_ofList,
    String.length_ofList]

/-- Below a thousand there are three digits. -/
theorem toList_threeDigits (h : n < 1000) :
    (threeDigits n).toList =
      [(n / 100).digitChar, (n / 10 % 10).digitChar, (n % 10).digitChar] := by
  have hlast (m : Nat) (h : 10 ≤ m) :
      Nat.toDigits 10 m = Nat.toDigits 10 (m / 10) ++ [(m % 10).digitChar] := by
    rw [Nat.toDigits_eq_if (by decide), if_neg (Nat.not_lt.2 h)]
  have hzero (m : Nat) (h : m = 0) : m.digitChar = '0' := by rw [h]; rfl
  rw [toList_threeDigits_eq]
  rcases Nat.lt_or_ge n 10 with h1 | h1
  · rw [Nat.toDigits_of_lt_base h1, hzero (n / 100) (by omega), hzero (n / 10 % 10) (by omega),
      Nat.mod_eq_of_lt h1]
    rfl
  · rcases Nat.lt_or_ge n 100 with h2 | h2
    · rw [hlast n h1, Nat.toDigits_of_lt_base (by omega), hzero (n / 100) (by omega),
        Nat.mod_eq_of_lt (show n / 10 < 10 by omega)]
      rfl
    · have hdiv : n / 10 / 10 = n / 100 := by omega
      rw [hlast n h1, hlast (n / 10) (by omega), hdiv, Nat.toDigits_of_lt_base (by omega)]
      rfl

/-- The order of sort texts is that of the distances, and then that of the names. -/
theorem sortText_lt_iff (hm : m < 1000) (hn : n < 1000) :
    threeDigits m ++ "_" ++ s < threeDigits n ++ "_" ++ t ↔ m < n ∨ m = n ∧ s < t := by
  have hlist (n : Nat) (t : String) (hn : n < 1000) : (threeDigits n ++ "_" ++ t).toList =
      [(n / 100).digitChar, (n / 10 % 10).digitChar, (n % 10).digitChar, '_'] ++ t.toList := by
    rw [String.toList_append, String.toList_append, toList_threeDigits hn]
    rfl
  rw [String.lt_iff_toList_lt, String.lt_iff_toList_lt, hlist m s hm, hlist n t hn]
  simp (disch := omega) only [List.cons_append, List.nil_append, List.cons_lt_cons_iff,
    digitChar_lt_digitChar_iff, digitChar_eq_digitChar_iff]
  by_cases hst : s.toList < t.toList
  · simp only [hst, and_true, or_true]
    omega
  · simp only [hst, and_false, or_false, lt_irrefl]
    omega

theorem sortLe_iff {a b : CompletionItem} :
    sortLe a b = true ↔ a.sortText.getD "" ≤ b.sortText.getD "" := by
  rw [sortLe, Bool.not_eq_true', decide_eq_false_iff_not, not_lt]

theorem pairwise_mergeSort_sortLe (items : List CompletionItem) :
    (items.mergeSort sortLe).Pairwise fun a b => sortLe a b = true := by
  apply List.pairwise_mergeSort
  · intro a b c hab hbc
    exact sortLe_iff.2 (le_trans (sortLe_iff.1 hab) (sortLe_iff.1 hbc))
  · intro a b
    rw [Bool.or_eq_true, sortLe_iff, sortLe_iff]
    exact le_total _ _

/-! ## Files that are partials -/

/-- The name of a file that is a partial: behind an underscore and in front of one or both endings
it is not empty. -/
def IsPartialName (b : Bytes) : Prop :=
  ∃ stem, stem ≠ [] ∧ (b = Utf8.encode "_" ++ stem ++ Utf8.encode ".html.haml" ∨
    b = Utf8.encode "_" ++ stem ++ Utf8.encode ".haml" ∧ ¬ Utf8.encode ".html" <:+ stem)

/-- The octet of a backslash. -/
def backslash : UInt8 := 92

/-- What stands behind the last backslash of a name. -/
def shownName (b : Bytes) : Bytes := (b.splitOn backslash).getLastD []

theorem shownName_of_notMem (h : backslash ∉ b) : shownName b = b := by
  rw [shownName, List.splitOn_eq_singleton h]
  rfl

/-- A name is read off the last segment. -/
theorem isSome_renderName?_iff (s : List Char) :
    (renderName? s).isSome ↔ (renderName? ((s.splitOn '/').getLastD [])).isSome := by
  rcases cutAtLast_cases '/' s with ⟨hs, -⟩ | ⟨a, b, rfl, hb, -⟩
  · rw [getLastD_splitOn hs]
  · rw [getLastD_splitOn_append_cons a hb, renderName?_append a hb, Option.isSome_map]

theorem decodeChars_eq_underscore_iff {name ending : List Char} (h : Utf8.IsAscii ending) :
    Utf8.decodeChars b = '_' :: name ++ ending ↔
      ∃ stem, b = Utf8.encode "_" ++ stem ++ Utf8.encode (String.ofList ending) ∧
        Utf8.decodeChars stem = name := by
  have hfront {a : Bytes} : Utf8.decodeChars a = '_' :: name ↔
      ∃ stem, a = Utf8.encode "_" ++ stem ∧ Utf8.decodeChars stem = name :=
    Utf8.decodeChars_eq_cons_iff (by decide) (by decide)
  rw [Utf8.decodeChars_eq_append_iff h]
  simp only [hfront]
  constructor
  · rintro ⟨_, rfl, stem, rfl, hstem⟩
    exact ⟨stem, rfl, hstem⟩
  · rintro ⟨stem, rfl, hstem⟩
    exact ⟨_, rfl, stem, rfl, hstem⟩

/-- Whether a name is that of a partial can be told from its octets. -/
theorem isSome_renderName?_decodeChars_iff (hslash : '/' ∉ Utf8.decodeChars b) :
    (renderName? (Utf8.decodeChars b)).isSome ↔ IsPartialName b := by
  have hboth : Utf8.IsAscii ".html.haml".toList := by decide
  have hlast : Utf8.IsAscii ".haml".toList := by decide
  have hmiddle : Utf8.IsAscii ".html".toList := by decide
  rw [Option.isSome_iff_exists]
  simp only [renderName?_eq_some_iff hslash, dropEnd?_eq_none_iff,
    decodeChars_eq_underscore_iff hboth, decodeChars_eq_underscore_iff hlast, String.ofList_toList]
  constructor
  · rintro ⟨name, hne, ⟨stem, hb, rfl⟩ | ⟨⟨stem, hb, rfl⟩, hend⟩⟩
    · exact ⟨stem, mt Utf8.decodeChars_eq_nil_iff.2 hne, Or.inl hb⟩
    · rw [Utf8.suffix_decodeChars_iff hmiddle, String.ofList_toList] at hend
      exact ⟨stem, mt Utf8.decodeChars_eq_nil_iff.2 hne, Or.inr ⟨hb, hend⟩⟩
  · rintro ⟨stem, hne, hb | ⟨hb, hend⟩⟩
    · exact ⟨_, mt Utf8.decodeChars_eq_nil_iff.1 hne, Or.inl ⟨stem, hb, rfl⟩⟩
    · refine ⟨_, mt Utf8.decodeChars_eq_nil_iff.1 hne, Or.inr ⟨⟨stem, hb, rfl⟩, ?_⟩⟩
      rwa [Utf8.suffix_decodeChars_iff hmiddle, String.ofList_toList]

/-- Shown with slashes, a name without a slash ends in what stands behind its last backslash. -/
theorem getLastD_shown (hslash : slash ∉ b) :
    (((Utf8.decodeChars b).map fun c => if c = '\\' then '/' else c).splitOn '/').getLastD [] =
      Utf8.decodeChars (shownName b) := by
  have hnone {b : Bytes} (hslash : slash ∉ b) (hback : backslash ∉ b) :
      (((Utf8.decodeChars b).map fun c => if c = '\\' then '/' else c).splitOn '/').getLastD [] =
        Utf8.decodeChars b := by
    have hslash' : '/' ∉ Utf8.decodeChars b :=
      Utf8.notMem_decodeChars (by decide) (by decide) hslash
    have hback' : '\\' ∉ Utf8.decodeChars b :=
      Utf8.notMem_decodeChars (by decide) (by decide) hback
    rw [map_shown_eq_self hback', getLastD_splitOn hslash']
  by_cases hback : backslash ∈ b
  · obtain ⟨front, last, rfl, hlast⟩ := exists_last_of_mem hback
    have hslash' : slash ∉ last := fun h =>
      hslash (List.mem_append_right front (List.mem_cons_of_mem _ h))
    have hshown : shownName (front ++ backslash :: last) = last :=
      getLastD_splitOn_append_cons front hlast
    rw [hshown, Utf8.decodeChars_append_cons (by decide), List.map_append, List.map_cons]
    exact (getLastD_splitOn_append_cons_eq _ _).trans (hnone hslash' hlast)
  · rw [shownName_of_notMem hback, hnone hslash hback]

/-- A file is taken for a partial by what stands behind the last backslash of its name. -/
theorem isSome_partialOf?_iff (hsound : d.tree.Sound) (hf : f ∈ d.filesBelow views) :
    (partialOf? f).isSome ↔ IsPartialName (shownName f.fileName) := by
  obtain ⟨_, -, -, hne, -⟩ := Directory.mem_filesBelow_iff.1 hf
  obtain ⟨dirs, n, hnames⟩ := (List.eq_nil_or_concat f.names).resolve_left hne
  rw [List.concat_eq_append] at hnames
  have hfile : f.fileName = n := by rw [Scanned.fileName, hnames, List.getLastD_concat]
  have hslash : slash ∉ n := by
    refine (Directory.isName_of_mem_filesBelow hsound hf n ?_).slash_notMem
    rw [hnames]
    exact List.mem_append_right dirs List.mem_cons_self
  have hlast : (f.relative.splitOn '/').getLastD [] = Utf8.decodeChars (shownName n) := by
    rw [Scanned.relative, Utf8.toList_decodeLossy, hnames]
    by_cases hdirs : dirs = []
    · rw [hdirs, List.nil_append, List.intercalate_singleton, getLastD_shown hslash]
    · rw [intercalate_concat, flatMap_slash hdirs, List.append_assoc, List.singleton_append,
        Utf8.decodeChars_append_cons (by decide), List.map_append, List.map_cons]
      exact (getLastD_splitOn_append_cons_eq _ _).trans (getLastD_shown hslash)
  have hslash' : '/' ∉ Utf8.decodeChars (shownName n) := hlast ▸ notMem_getLastD_splitOn '/' _
  rw [partialOf?, Option.isSome_map, isSome_renderName?_iff, hlast, hfile,
    isSome_renderName?_decodeChars_iff hslash']

/-! ## Candidates -/

/-- A partial that comes before or with another: it is nearer to the document, or as near and its
name comes first, octet by octet. -/
def Nearer (document : Path) (p q : Partial) : Prop :=
  document.directory.distance p.directory < document.directory.distance q.directory ∨
    document.directory.distance p.directory = document.directory.distance q.directory ∧
      Component.octetsLe (Utf8.encode p.name) (Utf8.encode q.name) = true

theorem sortLe_partialItem_iff {named : Bool} (hm : m < 1000) (hn : n < 1000) :
    sortLe (partialItem quote named m p) (partialItem quote named n q) = true ↔
      m < n ∨ m = n ∧ Component.octetsLe (Utf8.encode p.name) (Utf8.encode q.name) = true := by
  rw [sortLe_iff, ← not_lt, Utf8.octetsLe_encode_iff]
  show ¬ threeDigits n ++ "_" ++ q.name < threeDigits m ++ "_" ++ p.name ↔ _
  rw [sortText_lt_iff hn hm, ← not_lt]
  rcases Nat.lt_trichotomy m n with hlt | rfl | hgt
  · simp [hlt, Nat.lt_asymm hlt, Nat.ne_of_gt hlt]
  · simp
  · simp [hgt, Nat.lt_asymm hgt, Nat.ne_of_gt hgt]

theorem preselect_preselectFirst {items : List CompletionItem} {i : CompletionItem} {j : Nat}
    (hnone : ∀ i ∈ items, i.preselect = false) (h : (preselectFirst items)[j]? = some i) :
    i.preselect = true ↔ j = 0 := by
  cases items with
  | nil => cases h
  | cons first rest =>
    cases j with
    | zero =>
      obtain rfl := Option.some.inj h
      exact iff_of_true rfl rfl
    | succ j =>
      have hrest : i ∈ first :: rest := List.mem_cons_of_mem first (List.mem_of_getElem? h)
      rw [hnone i hrest]
      exact iff_of_false Bool.false_ne_true (Nat.succ_ne_zero j)

/-- The candidates in their order, before one of them is selected. -/
theorem exists_partialItems_eq (hline : findMatch renderQuoteAt? line = some quote)
    (hdistance : ∀ p ∈ partials d views, document.directory.distance p.directory < 1000) :
    ∃ (named : Bool) (ps : List Partial), ps.Perm (partials d views) ∧
      ps.Pairwise (Nearer document) ∧
      partialItems d views document line = preselectFirst (ps.map fun p =>
        partialItem quote named (document.directory.distance p.directory) p) := by
  generalize hnamed : (findMatch namedAt? line).isSome = named
  let item (p : Partial) := partialItem quote named (document.directory.distance p.directory) p
  have hperm := List.mergeSort_perm (partials d views) fun p q => sortLe (item p) (item q)
  have hmap : ((partials d views).mergeSort fun p q => sortLe (item p) (item q)).map item =
      ((partials d views).map item).mergeSort sortLe :=
    List.map_mergeSort fun p _ q _ => rfl
  refine ⟨named, _, hperm, ?_, ?_⟩
  · have hsorted := pairwise_mergeSort_sortLe ((partials d views).map item)
    rw [← hmap, List.pairwise_map] at hsorted
    refine hsorted.imp_of_mem fun {p q} hp hq hle => ?_
    exact (sortLe_partialItem_iff (hdistance p (hperm.mem_iff.1 hp))
      (hdistance q (hperm.mem_iff.1 hq))).1 hle
  · rw [hmap]
    simp only [partialItems, hline, hnamed]
    rfl

theorem forall₂_preselectFirst (document : Path) (quote : Char) (named : Bool) (ps : List Partial) :
    List.Forall₂ (Workspace.Offers document) (preselectFirst (ps.map fun p =>
      partialItem quote named (document.directory.distance p.directory) p)) ps := by
  cases ps with
  | nil => exact List.Forall₂.nil
  | cons p ps =>
    refine List.Forall₂.cons ⟨quote, named, true, rfl⟩ ?_
    rw [List.forall₂_map_left_iff, List.forall₂_same]
    exact fun q _ => ⟨quote, named, false, rfl⟩

/-- Where no more files lie under the views than a scan takes, and no backslash changes which of
them have the name of a partial, there is one candidate for each file with such a name behind the
opening quote of a render call.  The nearest comes first as long as no distance has a fourth digit,
and exactly the first is selected. -/
theorem partialItems_nearest (hsound : d.tree.Sound)
    (hline : findMatch renderQuoteAt? line = some quote) (hall : d.ScansAll views)
    (hnames : ∀ f ∈ d.filesBelow views,
      (IsPartialName (shownName f.fileName) ↔ IsPartialName f.fileName))
    (hdistance : ∀ f ∈ d.filesBelow views, IsPartialName f.fileName →
      document.directory.distance f.directory < 1000) :
    (∀ f ∈ d.filesBelow views, ((partialOf? f).isSome ↔ IsPartialName f.fileName)) ∧
    (∃ ps, ps.Perm ((d.filesBelow views).filterMap partialOf?) ∧ ps.Pairwise (Nearer document) ∧
      List.Forall₂ (Workspace.Offers document) (partialItems d views document line) ps) ∧
    ∀ j i, (partialItems d views document line)[j]? = some i → (i.preselect = true ↔ j = 0) := by
  have htaken : ∀ f ∈ d.filesBelow views, ((partialOf? f).isSome ↔ IsPartialName f.fileName) :=
    fun f hf => (isSome_partialOf?_iff hsound hf).trans (hnames f hf)
  have hperm : (partials d views).Perm ((d.filesBelow views).filterMap partialOf?) :=
    hall.perm.filterMap partialOf?
  have hnear : ∀ p ∈ partials d views, document.directory.distance p.directory < 1000 := by
    intro p hp
    obtain ⟨f, hf, hpartial⟩ := List.mem_filterMap.1 (hperm.mem_iff.1 hp)
    obtain ⟨_, -, rfl⟩ := Option.map_eq_some_iff.1 hpartial
    exact hdistance f hf ((htaken f hf).1 (Option.isSome_of_eq_some hpartial))
  obtain ⟨named, ps, hps, hnearer, hitems⟩ := exists_partialItems_eq hline hnear
  rw [hitems]
  refine ⟨htaken, ⟨ps, hps.trans hperm, hnearer, ?_⟩, fun j i hi => ?_⟩
  · exact forall₂_preselectFirst document quote named ps
  · refine preselect_preselectFirst ?_ hi
    rw [List.forall_mem_map]
    exact fun p _ => rfl

/-- A candidate is shown by the name of its partial. -/
theorem map_label_eq {items : List CompletionItem} {ps : List Partial}
    (h : List.Forall₂ (Workspace.Offers document) items ps) :
    items.map (·.label) = ps.map (·.name) := by
  induction h with
  | nil => rfl
  | cons hoffers _ ih =>
    obtain ⟨quote, named, selected, rfl⟩ := hoffers
    rw [List.map_cons, List.map_cons, ih]
    rfl

/-- What the order of candidates goes by: the distance from a document, and the name. -/
def orderKey (document : Path) (p : Partial) : Nat × String :=
  (document.directory.distance p.directory, p.name)

/-- The order of candidates. -/
def KeyLe (a b : Nat × String) : Prop :=
  a.1 < b.1 ∨ a.1 = b.1 ∧ Component.octetsLe (Utf8.encode a.2) (Utf8.encode b.2) = true

instance : DecidableRel KeyLe := fun _ _ => inferInstanceAs (Decidable (_ ∨ _))

theorem KeyLe.antisymm {a b : Nat × String} (h : KeyLe a b) (h' : KeyLe b a) : a = b := by
  unfold KeyLe at h h'
  rw [Utf8.octetsLe_encode_iff] at h h'
  rcases h with hlt | ⟨heq, hle⟩
  · omega
  · rcases h' with hlt | ⟨-, hge⟩
    · omega
    · exact Prod.ext heq (le_antisymm hle hge)

/-- The order leaves no choice but among partials of one name and distance. -/
theorem map_orderKey_eq {ps : List Partial} {keys : List (Nat × String)}
    (hnearer : ps.Pairwise (Nearer document)) (hkeys : keys.Pairwise KeyLe)
    (hperm : (ps.map (orderKey document)).Perm keys) : ps.map (orderKey document) = keys := by
  have hsorted : (ps.map (orderKey document)).Pairwise KeyLe := List.pairwise_map.2 hnearer
  exact hperm.eq_of_pairwise (fun _ _ _ _ h h' => h.antisymm h') hsorted hkeys

/-- A directory of views with some files. -/
def withViews (files : List (List String)) : Directory :=
  ⟨files.foldl (fun t file => t.write ((["p", "app", "views"] ++ file).map Utf8.encode) []) .empty,
    []⟩

/-- The views of that directory. -/
def exampleViews : Path := Workspace.viewsOf (.ofString "/p")

/-- A document in a directory of its own under the views. -/
def exampleDocument : Path := .ofString "/p/app/views/users/edit.html.haml"

/-- Partials beside a document and elsewhere. -/
def someViews : Directory :=
  withViews [["shared", "_nav.haml"], ["_top.html.haml"], ["users", "_row.haml"],
    ["users", "index.html.haml"], ["users", "_form.haml"]]

/-- The partials beside the document come first, by their names, and then the others. -/
theorem partialItems_nearest_users :
    (partialItems someViews exampleViews exampleDocument "= render '".toList).map (·.label) =
      ["users/form", "users/row", "top", "shared/nav"] := by
  have hsound : someViews.tree.Sound := by decide
  have hline : findMatch renderQuoteAt? "= render '".toList = some '\'' := by decide
  have hall : someViews.ScansAll exampleViews := by decide
  have hplain : ∀ f ∈ someViews.filesBelow exampleViews, backslash ∉ f.fileName := by decide
  have hdistance : ∀ f ∈ someViews.filesBelow exampleViews,
      exampleDocument.directory.distance f.directory < 1000 := by decide +kernel
  obtain ⟨-, ⟨ps, hperm, hnearer, hoffers⟩, -⟩ := partialItems_nearest hsound hline hall
    (fun f hf => by rw [shownName_of_notMem (hplain f hf)]) (fun f hf _ => hdistance f hf)
  have hfiles : ((someViews.filesBelow exampleViews).filterMap partialOf?).map
      (orderKey exampleDocument) =
      [(2, "shared/nav"), (1, "top"), (0, "users/row"), (0, "users/form")] := by decide +kernel
  have hkeys : ps.map (orderKey exampleDocument) =
      [(0, "users/form"), (0, "users/row"), (1, "top"), (2, "shared/nav")] := by
    refine map_orderKey_eq hnearer (by decide) ((hperm.map (orderKey exampleDocument)).trans ?_)
    rw [hfiles]
    decide
  have hnames : ps.map (·.name) = (ps.map (orderKey exampleDocument)).map Prod.snd := by
    rw [List.map_map]
    rfl
  rw [map_label_eq hoffers, hnames, hkeys]
  rfl

/-! ## More partials than a scan takes -/

theorem length_preselectFirst (items : List CompletionItem) :
    (preselectFirst items).length = items.length := by
  cases items with
  | nil => rfl
  | cons first rest => rfl

/-- There are never more candidates than a scan takes files. -/
theorem length_partialItems_le (d : Directory) (views document : Path) (line : List Char) :
    (partialItems d views document line).length ≤ Directory.scanLimit := by
  unfold partialItems
  split
  · exact Nat.zero_le _
  · rw [length_preselectFirst, List.length_mergeSort, List.length_map]
    calc (partials d views).length
      _ ≤ (d.filesUnder views true).length := List.length_filterMap_le ..
      _ = min Directory.scanLimit (d.filesBelow views).length := Directory.length_filesUnder d views
      _ ≤ Directory.scanLimit := Nat.min_le_left _ _

/-- The file of a partial that has a number for a name. -/
def numbered (i : Nat) : String := "_" ++ String.ofList (Nat.toDigits 10 i) ++ ".html.haml"

/-- The place of the views. -/
def viewsPlace : Place := ["p", "app", "views"].map Utf8.encode

/-- A directory of views with many partials. -/
def crowd (n : Nat) : Directory where
  tree :=
    { files := (List.range n).map fun i => (viewsPlace ++ [Utf8.encode (numbered i)], [])
      directories := (List.range 4).map viewsPlace.take }
  cwd := []

theorem encode_numbered_injective : Function.Injective fun i => Utf8.encode (numbered i) := by
  intro i j h
  have hlist := congrArg (fun b => (Utf8.decodeLossy b).toList) h
  simp only [Utf8.decodeLossy_encode, numbered, String.toList_append, String.toList_ofList] at hlist
  have hdigits : Nat.toDigits 10 i = Nat.toDigits 10 j :=
    List.append_cancel_left (List.append_cancel_right hlist)
  rw [← ofDigits_toDigits i, hdigits, ofDigits_toDigits]

/-- A numbered file has the name of a partial. -/
theorem isPartialName_numbered (i : Nat) : IsPartialName (Utf8.encode (numbered i)) := by
  refine ⟨Utf8.encode (String.ofList (Nat.toDigits 10 i)), ?_, Or.inl ?_⟩
  · have hne : Nat.toDigits 10 i ≠ [] := Nat.toDigits_ne_nil
    exact Utf8.encode_ne_nil (mt String.ofList_eq_empty_iff.1 hne)
  · rw [numbered, Utf8.encode_append, Utf8.encode_append]

theorem isName_numbered (i : Nat) : IsName (Utf8.encode (numbered i)) := by
  have hslash : '/' ∉ Nat.toDigits 10 i ++ ".html.haml".toList := by
    rw [List.mem_append, not_or]
    refine ⟨fun h => ?_, by decide⟩
    have hdigit := isDigit_of_mem_toDigits h
    exact absurd hdigit (by decide)
  have hname : numbered i =
      String.ofList ('_' :: (Nat.toDigits 10 i ++ ".html.haml".toList)) := by
    rw [← String.toList_inj]
    simp [numbered]
  rw [hname]
  exact isName_underscore hslash

theorem lookup_crowd (n : Nat) {above : Place} (h : above.length < 4) :
    (crowd n).tree.files.lookup above = none := by
  rw [List.lookup_eq_none_iff]
  intro file hfile
  obtain ⟨i, -, rfl⟩ := List.mem_map.1 hfile
  refine bne_iff_ne.2 fun heq => ?_
  rw [heq] at h
  exact absurd h (by simp [viewsPlace])

theorem take_mem_crowd (n : Nat) {k : Nat} (hk : k < 4) :
    (crowd n).tree.files.lookup (viewsPlace.take k) = none ∧
      viewsPlace.take k ∈ (crowd n).tree.directories := by
  refine ⟨lookup_crowd n ?_, List.mem_map.2 ⟨k, List.mem_range.2 hk, rfl⟩⟩
  rw [List.length_take]
  omega

theorem sound_crowd (n : Nat) : (crowd n).tree.Sound := by
  constructor
  · intro file hfile
    obtain ⟨i, -, rfl⟩ := List.mem_map.1 hfile
    rw [List.forall_mem_append]
    exact ⟨by decide, List.forall_mem_singleton.2 (isName_numbered i)⟩
  · intro file hfile above habove
    obtain ⟨i, -, rfl⟩ := List.mem_map.1 hfile
    obtain ⟨k, hk, rfl⟩ := List.mem_map.1 habove
    have hk : k < 4 := List.mem_range.1 hk
    rw [List.take_append_of_le_length (Nat.le_of_lt_succ hk)]
    exact take_mem_crowd n hk

theorem directory?_crowd (n : Nat) :
    (crowd n).tree.directory? (crowd n).cwd exampleViews = some viewsPlace := by
  have hdirectory {k : Nat} (hk : k < 4) :
      (crowd n).tree.directoryAt (viewsPlace.take k) = .ok (viewsPlace.take k) :=
    FileTree.directoryAt_of_closed (take_mem_crowd n hk).1 (take_mem_crowd n hk).2
  have hpieces : exampleViews.octets.splitOn slash = [] :: viewsPlace := by decide
  have hfollow : (crowd n).tree.follow [] viewsPlace = .ok viewsPlace :=
    FileTree.follow_names (by decide) fun k hk => hdirectory (Nat.lt_succ_of_lt hk)
  refine FileTree.directory?_eq_some_iff.2 (FileTree.lookup_eq_ok_iff.2
    ⟨by decide, viewsPlace, ?_, ?_⟩)
  · have hroot : (crowd n).tree.directoryAt [] = .ok [] := hdirectory (Nat.succ_pos 3)
    rw [if_pos (by decide), hpieces, FileTree.follow, hroot]
    exact hfollow
  · exact FileTree.directoryAt_eq_ok_iff.1 (hdirectory (Nat.lt_succ_self 3))

theorem filesBelow_crowd (n : Nat) :
    (crowd n).filesBelow exampleViews =
      (List.range n).map fun i => ⟨exampleViews, [Utf8.encode (numbered i)], []⟩ := by
  unfold Directory.filesBelow
  rw [directory?_crowd]
  show ((List.range n).map _).filterMap _ = _
  rw [List.filterMap_map, ← List.filterMap_eq_map]
  refine List.filterMap_congr fun i _ => ?_
  have hnames : Directory.namesBelow viewsPlace (viewsPlace ++ [Utf8.encode (numbered i)]) =
      some [Utf8.encode (numbered i)] :=
    Directory.namesBelow_eq_some_iff.2 ⟨rfl, List.cons_ne_nil _ _⟩
  simp only [Function.comp_apply, hnames, Option.map_some]

/-- Of more partials than a scan takes, some are not offered; nor is a partial with a backslash in
its name. -/
theorem not_partialItems_nearest :
    ((crowd 10001).tree.Sound ∧
      ((crowd 10001).filesBelow exampleViews).length = 10001 ∧
      (((crowd 10001).filesBelow exampleViews).map (·.fileName)).Nodup ∧
      (∀ f ∈ (crowd 10001).filesBelow exampleViews, IsPartialName f.fileName ∧
        exampleDocument.directory.distance f.directory < 1000) ∧
      (partialItems (crowd 10001) exampleViews exampleDocument "= render '".toList).length <
        10001) ∧
    ((withViews [["_a\\b.haml"]]).tree.Sound ∧
      (∃ f ∈ (withViews [["_a\\b.haml"]]).filesBelow exampleViews, IsPartialName f.fileName ∧
        exampleDocument.directory.distance f.directory < 1000) ∧
      partialItems (withViews [["_a\\b.haml"]]) exampleViews exampleDocument "= render '".toList =
        []) := by
  refine ⟨⟨sound_crowd 10001, ?_, ?_, ?_, ?_⟩, by decide, ?_, by decide +kernel⟩
  · rw [filesBelow_crowd, List.length_map, List.length_range]
  · rw [filesBelow_crowd, List.map_map]
    exact List.Nodup.map encode_numbered_injective List.nodup_range
  · have hviews : exampleDocument.directory.distance exampleViews < 1000 := by decide
    rw [filesBelow_crowd, List.forall_mem_map]
    exact fun i _ => ⟨isPartialName_numbered i, hviews⟩
  · exact Nat.lt_succ_of_le (length_partialItems_le _ _ _ _)
  · refine ⟨⟨exampleViews, [Utf8.encode "_a\\b.haml"], []⟩, ?_, ?_, by decide⟩
    · exact Directory.mem_filesBelow_iff.2 ⟨viewsPlace, by decide, rfl, by decide, by decide⟩
    · exact ⟨Utf8.encode "a\\b", by decide, Or.inr ⟨by decide, by decide⟩⟩

end HamlServer.Suggest
