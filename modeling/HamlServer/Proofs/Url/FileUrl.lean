import HamlServer.Proofs.Files.Path
import HamlServer.Proofs.Url.Percent

/-!
# The file URL of a path

The URL of an absolute path names its components one by one, percent-encoded.  Reading the URL finds
the same segments again: none of their characters is passed over, separates segments or ends the
path, and none of the segments is read as dots.  Only a first segment of a letter and a bar is read
as another one, with a colon.  A slash that reading puts behind a path adds no component.

* `dots_encodeSegment`, `push_encodeSegment`: a written name is an ordinary segment.
* `readPath_append`, `readPath_segments`: reading one segment, and all of them.
* `localPath?_pathPart`: reading the URL of a path finds its path part as it was written.
* `components_toPath?_ofPath?`: a path comes back from its URL with its components.
-/

namespace HamlServer

open Percent

variable {names : List Bytes} {n : Bytes} {p : Path}

namespace Url

/-! ## Dots and drive letters -/

theorem decodeDots_cons_of_ne {c : Char} (h : c ≠ '%') (s : List Char) :
    decodeDots (c :: s) = c :: decodeDots s := by
  rw [decodeDots]
  · intro r hc
    exact absurd hc h
  · intro r hc
    exact absurd hc h

/-- No octet is written as an encoded dot, since a dot is written as it is. -/
theorem decodeDots_encodeOctet (b : UInt8) (s : List Char) :
    decodeDots (encodeOctet b ++ s) = encodeOctet b ++ decodeDots s := by
  have hb : b.toNat < 256 := b.toNat_lt
  rcases encodeOctet_cases b with ⟨hencoded, hnumber⟩ | ⟨hsame, -, hne⟩
  · -- The digit `e` is not written in the lower case, and `%2E` is the number of the dot itself.
    have hmark : ∀ d < 16, hexChar d ≠ '%' := by decide
    have hlower : ∀ d < 16, hexChar d ≠ 'e' := by decide
    have hdot : hexChar (b.toNat / 16) = '2' → hexChar (b.toNat % 16) ≠ 'E' := by
      have htwo : ∀ d < 16, hexChar d = '2' → d = 2 := by decide
      have hfourteen : ∀ d < 16, hexChar d = 'E' → d = 14 := by decide
      intro hhigh hlow
      have hdiv := htwo _ (by omega) hhigh
      have hmod := hfourteen _ (by omega) hlow
      have hb46 : b = 46 := by
        rw [← UInt8.toNat_inj]
        show b.toNat = 46
        omega
      rw [hb46] at hencoded
      cases hencoded
    rw [hnumber, List.cons_append, List.cons_append, List.singleton_append, decodeDots,
      decodeDots_cons_of_ne (hmark _ (by omega)), decodeDots_cons_of_ne (hmark _ (by omega))]
    · rfl
    · intro r hr h
      exact absurd (List.cons.inj (List.cons.inj h).2).1 (hlower _ (by omega))
    · intro r hr h
      exact absurd (List.cons.inj (List.cons.inj h).2).1 (hdot (List.cons.inj h).1)
  · have hchar : Char.ofNat b.toNat ≠ '%' := by
      intro he
      apply hne
      rw [← UInt8.toNat_inj, ← toNat_ofNat_octet, he]
      rfl
    rw [hsame, List.singleton_append, decodeDots_cons_of_ne hchar, List.singleton_append]

theorem decodeDots_encodeSegment (n : Bytes) : decodeDots (encodeSegment n) = encodeSegment n := by
  induction n with
  | nil => rfl
  | cons b n ih =>
    have hcons : encodeSegment (b :: n) = encodeOctet b ++ encodeSegment n := rfl
    rw [hcons, decodeDots_encodeOctet, ih]

/-- A written name is no dots. -/
theorem dots_encodeSegment (hn : IsName n) : dots (encodeSegment n) = .none := by
  have hdot : encodeSegment [46] = ['.'] := by decide
  have hdots : encodeSegment [46, 46] = ['.', '.'] := by decide
  unfold dots
  rw [decodeDots_encodeSegment]
  split
  · next h => exact absurd (encodeSegment_inj.1 (h.trans hdot.symm)) hn.ne_dot
  · next h => exact absurd (encodeSegment_inj.1 (h.trans hdots.symm)) hn.ne_dots
  · rfl

/-- A letter and a bar: the spelling of a drive letter that is read with a colon. -/
def isBarredDrive : Bytes → Bool
  | [letter, mark] =>
    ((65 ≤ letter && letter ≤ 90) || (97 ≤ letter && letter ≤ 122)) && mark == 124
  | _ => false

theorem isBarredDrive_of_encodeSegment {c : Char} (hc : c.isAlpha = true)
    (h : encodeSegment n = [c, '|']) : isBarredDrive n = true := by
  have hrange : (65 ≤ c.toNat ∧ c.toNat ≤ 90) ∨ (97 ≤ c.toNat ∧ c.toNat ≤ 122) := by
    have hletter : (decide (65 ≤ c.val ∧ c.val ≤ 90) ||
        (decide (97 ≤ c.val) && decide (c.val ≤ 122))) = true := hc
    simpa [UInt32.le_iff_toNat_le] using hletter
  have hoctet : (UInt8.ofNat c.toNat).toNat = c.toNat := Utf8.toNat_octet (by omega)
  have hmark : String.utf8EncodeChar '|' = [124] := rfl
  have hne : UInt8.ofNat c.toNat ≠ 37 := by
    rw [ne_eq, ← UInt8.toNat_inj, hoctet]
    show ¬ c.toNat = 37
    omega
  have hn : n = [UInt8.ofNat c.toNat, 124] := by
    have hread := decode_encodeSegment n []
    rw [h, List.flatMap_cons, List.flatMap_singleton, Utf8.utf8EncodeChar_of_lt (by omega), hmark,
      List.append_nil, List.singleton_append, decode_cons_of_ne hne] at hread
    exact (hread.trans (List.append_nil n)).symm
  rw [hn]
  simpa [isBarredDrive, UInt8.le_iff_toNat_le, hoctet] using hrange

/-- A written name is added as it is, unless it is a letter and a bar under the root. -/
theorem push_encodeSegment {s : PathState} (hhost : s.hasHost = false)
    (hdrive : s.built.length = 1 → isBarredDrive n = false) (slash : Bool) :
    s.push .file (encodeSegment n) slash =
      ⟨s.built ++ encodeSegment n ++ (if slash then ['/'] else []), false⟩ := by
  have hbar {c : Char} (hc : c.isAlpha = true) (hseg : encodeSegment n = [c, '|']) :
      s.built.length ≠ 1 := by
    intro hlength
    have hbarred := isBarredDrive_of_encodeSegment hc hseg
    rw [hdrive hlength] at hbarred
    cases hbarred
  -- From here on only the shape of the segment counts, not what it was written for.
  generalize encodeSegment n = seg at hbar
  unfold PathState.push
  dsimp only
  split
  · split
    · next a b h =>
      obtain ⟨-, hlength, hletter⟩ := h
      unfold isDriveLetter at hletter
      rw [Bool.and_eq_true, Bool.or_eq_true, beq_iff_eq, beq_iff_eq] at hletter
      obtain ⟨halpha, rfl | rfl⟩ := hletter
      · rfl
      · exact absurd hlength (hbar halpha rfl)
    · rw [hhost]
  · rw [hhost]

/-! ## Segments -/

/-- Reading goes over the characters of a segment. -/
theorem readPath_append {seg : List Char} (hseg : ∀ c ∈ seg, IsSegmentChar c) (s : PathState)
    (front r : List Char) :
    readPath .file s false front (seg ++ r) = readPath .file s false (seg.reverse ++ front) r := by
  induction seg generalizing front with
  | nil => rfl
  | cons c seg ih =>
    obtain ⟨hc, hseg⟩ := List.forall_mem_cons.1 hseg
    have hcounts : isPassedOver c = false := by
      have hne {x : Char} (hx : x.toNat ≤ 0x20) : (c == x) = false := by
        rw [beq_eq_false_iff_ne]
        rintro rfl
        have hgt := hc.gt
        omega
      unfold isPassedOver
      rw [hne (by decide), hne (by decide), hne (by decide)]
      rfl
    have hslash : Scheme.isSlash .file c = false := by
      unfold Scheme.isSlash
      rw [beq_eq_false_iff_ne.2 hc.ne_slash, beq_eq_false_iff_ne.2 hc.ne_backslash]
      rfl
    rw [List.cons_append, readPath, hcounts, hslash, beq_eq_false_iff_ne.2 hc.ne_question,
      beq_eq_false_iff_ne.2 hc.ne_hash, List.reverse_cons, List.append_assoc,
      List.singleton_append, ← ih hseg (c :: front)]
    rfl

theorem readPath_slash (s : PathState) (front r : List Char) :
    readPath .file s false front ('/' :: r) =
      readPath .file (s.add .file front.reverse true) false [] r := rfl

/-- A written name between slashes is added to the path. -/
theorem add_encodeSegment {s : PathState} (hn : IsName n) (hhost : s.hasHost = false)
    (hdrive : s.built.length = 1 → isBarredDrive n = false) (slash : Bool) :
    s.add .file (encodeSegment n) slash =
      ⟨s.built ++ encodeSegment n ++ (if slash then ['/'] else []), false⟩ := by
  unfold PathState.add
  rw [dots_encodeSegment hn]
  exact push_encodeSegment hhost hdrive slash

/-- The segments of names, each behind a slash. -/
def segments (names : List Bytes) : List Char := names.flatMap fun n => '/' :: encodeSegment n

theorem segments_cons (n : Bytes) (names : List Bytes) :
    segments (n :: names) = '/' :: (encodeSegment n ++ segments names) := rfl

/-- Reading finds the segments of names one by one.  Behind the first of them the path is longer
than the root, so no other can be a drive letter. -/
theorem readPath_segments (hnames : ∀ m ∈ n :: names, IsName m) {built : List Char}
    (hbuilt : built ≠ []) (hdrive : built.length = 1 → isBarredDrive n = false) :
    readPath .file ⟨built, false⟩ false [] (encodeSegment n ++ segments names) =
      ⟨built ++ encodeSegment n ++ segments names, false⟩ := by
  induction names generalizing n built with
  | nil =>
    have hempty : segments [] = [] := rfl
    rw [hempty, readPath_append fun c hc => isSegmentChar_of_mem_encodeSegment hc, readPath,
      List.append_nil, List.reverse_reverse]
    exact add_encodeSegment (hnames n List.mem_cons_self) rfl hdrive false
  | cons m names ih =>
    obtain ⟨hn, hnames⟩ := List.forall_mem_cons.1 hnames
    have hlonger : (built ++ encodeSegment n ++ ['/']).length ≠ 1 := by
      have hpos := List.length_pos_iff.2 hbuilt
      rw [List.length_append, List.length_append, List.length_singleton]
      omega
    rw [segments_cons, readPath_append fun c hc => isSegmentChar_of_mem_encodeSegment hc,
      readPath_slash, List.append_nil, List.reverse_reverse,
      add_encodeSegment hn rfl hdrive true, if_pos rfl,
      ih hnames (List.append_ne_nil_of_right_ne_nil _ (List.cons_ne_nil _ _))
        fun h => absurd h hlonger]
    simp only [List.append_assoc, List.cons_append, List.nil_append]

/-! ## The path part -/

/-- The path part of the URL of a path to names. -/
def pathPart (names : List Bytes) : List Char := if names = [] then ['/'] else segments names

/-- The path part is read as it was written. -/
theorem built_parsePath (hnames : ∀ n ∈ names, IsName n)
    (hdrive : ∀ n ∈ names.head?, isBarredDrive n = false) :
    (parsePath .file [] false (pathPart names)).built = pathPart names := by
  cases names with
  | nil => rfl
  | cons n names =>
    have hn : IsName n := hnames n List.mem_cons_self
    have hroot : PathState.add .file ⟨[], false⟩ [].reverse true = ⟨['/'], false⟩ := rfl
    obtain ⟨c, r, hc⟩ := List.exists_cons_of_ne_nil (encodeSegment_ne_nil hn.ne_nil)
    have hslash : c ≠ '/' := by
      have hmem : c ∈ encodeSegment n := by
        rw [hc]
        exact List.mem_cons_self
      exact (isSegmentChar_of_mem_encodeSegment hmem).ne_slash
    have hone : oneSlash ('/' :: (encodeSegment n ++ segments names)) =
        '/' :: (encodeSegment n ++ segments names) := by
      rw [oneSlash, List.dropWhile_cons_of_pos rfl, hc, List.cons_append,
        List.dropWhile_cons_of_neg]
      rw [beq_iff_eq]
      exact hslash
    unfold parsePath
    rw [pathPart, if_neg (List.cons_ne_nil n names), segments_cons, readPath_slash, hroot,
      readPath_segments hnames (List.cons_ne_nil _ _) fun _ => hdrive n rfl]
    exact hone

/-- The characters of the URL of a path to names are visible and of ASCII. -/
theorem visible_url (names : List Bytes) :
    ∀ c ∈ "file://".toList ++ pathPart names, 0x20 < c.toNat ∧ c.toNat < 0x7F := by
  have hslash : 0x20 < '/'.toNat ∧ '/'.toNat < 0x7F := by decide
  intro c hc
  rcases List.mem_append.1 hc with hc | hc
  · have hfront : "file://".toList.all fun c => decide (0x20 < c.toNat ∧ c.toNat < 0x7F) := by
      decide
    exact of_decide_eq_true (List.all_eq_true.1 hfront c hc)
  · unfold pathPart at hc
    split at hc
    · rwa [List.mem_singleton.1 hc]
    · obtain ⟨n, -, hc⟩ := List.mem_flatMap.1 hc
      rcases List.mem_cons.1 hc with rfl | hc
      · exact hslash
      · have hchar := isSegmentChar_of_mem_encodeSegment hc
        exact ⟨hchar.gt, hchar.lt⟩

/-- Reading the segments of names as octets gives back the names. -/
theorem decode_segments (names : List Bytes) :
    decode ((segments names).flatMap String.utf8EncodeChar) = names.flatMap (slash :: ·) := by
  induction names with
  | nil => rfl
  | cons n names ih =>
    have hslash : String.utf8EncodeChar '/' = [slash] := rfl
    rw [segments_cons, List.flatMap_cons, hslash, List.flatMap_append, List.singleton_append,
      decode_cons_of_ne (by decide), decode_encodeSegment, ih, List.flatMap_cons, List.cons_append]

theorem decode_pathPart (names : List Bytes) :
    decode (Utf8.encode (String.ofList (pathPart names))) =
      if names = [] then [slash] else names.flatMap (slash :: ·) := by
  rw [Utf8.encode_ofList, pathPart]
  split
  · rfl
  · exact decode_segments names

/-! ## Reading the URL -/

theorem strip_eq_self {s : List Char} (h : ∀ c ∈ s, 0x20 < c.toNat) : strip s = s := by
  have hkeep : ∀ l : List Char, (∀ c ∈ l, 0x20 < c.toNat) →
      l.dropWhile (fun c => c.toNat ≤ 0x20) = l := by
    intro l hl
    cases l with
    | nil => rfl
    | cons c l =>
      have hc := hl c List.mem_cons_self
      rw [List.dropWhile_cons_of_neg]
      rw [decide_eq_true_eq]
      omega
  unfold strip
  dsimp only
  rw [hkeep s h, hkeep s.reverse fun c hc => h c (List.mem_reverse.1 hc), List.reverse_reverse]

/-- Reading the URL of a path to names finds its path part. -/
theorem localPath?_pathPart (hnames : ∀ n ∈ names, IsName n)
    (hdrive : ∀ n ∈ names.head?, isBarredDrive n = false) :
    localPath? ("file://".toList ++ pathPart names) = some (pathPart names) := by
  have hvisible : ∀ c ∈ "file://".toList ++ pathPart names, 0x20 < c.toNat :=
    fun c hc => (visible_url names c hc).1
  have hread : ∀ r : List Char, scheme? ("file://".toList ++ '/' :: r) =
      some ("file", '/' :: '/' :: '/' :: r) := by
    intro r
    rfl
  have hpath : ∀ r : List Char, filePath ('/' :: '/' :: '/' :: r) =
      some (parsePath .file [] false ('/' :: r)).built := by
    intro r
    rfl
  have hslash : ∃ r, pathPart names = '/' :: r := by
    cases names with
    | nil => exact ⟨[], rfl⟩
    | cons n names => exact ⟨_, segments_cons n names⟩
  obtain ⟨r, hr⟩ := hslash
  have hbuilt := built_parsePath hnames hdrive
  unfold localPath?
  rw [strip_eq_self hvisible]
  rw [hr] at hbuilt ⊢
  rw [hread]
  exact (hpath r).trans (congrArg some hbuilt)

/-! ## The round trip -/

/-- A slash behind what ends like a drive letter adds no component. -/
theorem components_closeDriveLetter (b : Bytes) :
    Path.components ⟨closeDriveLetter b⟩ = Path.components ⟨b⟩ := by
  unfold closeDriveLetter
  split
  · next h =>
    have hb : b ≠ [] := by
      rintro rfl
      cases h
    dsimp only
    split
    · exact Path.components_concat_slash hb
    · rfl
  · rfl

theorem ofPath?_eq (h : p.components = .root :: names.map .name) :
    ofPath? p = some (String.ofList ("file://".toList ++ pathPart names)) := by
  have habsolute : p.isAbsolute = true := by
    rw [Path.isAbsolute_iff_head?, h]
    rfl
  unfold ofPath?
  rw [if_pos habsolute, h]
  cases names with
  | nil => rfl
  | cons n names =>
    simp only [List.drop_succ_cons, List.drop_zero, List.map_map]
    rfl

theorem toPath?_pathPart (hnames : ∀ n ∈ names, IsName n)
    (hdrive : ∀ n ∈ names.head?, isBarredDrive n = false) :
    ∃ q, toPath? (String.ofList ("file://".toList ++ pathPart names)) = some q ∧
      q.components = .root :: names.map .name := by
  have hcomponents : Path.components ⟨if names = [] then [slash] else names.flatMap (slash :: ·)⟩ =
      .root :: names.map .name := by
    split
    · next hnil =>
      rw [hnil]
      rfl
    · next hne => exact Path.components_flatMap_slash hnames hne
  refine ⟨⟨closeDriveLetter (decode (Utf8.encode (String.ofList (pathPart names))))⟩, ?_, ?_⟩
  · unfold toPath?
    rw [String.toList_ofList, localPath?_pathPart hnames hdrive, Option.map_some]
  · rw [components_closeDriveLetter, decode_pathPart, hcomponents]

/-- The URL of an absolute path names its components: read again, as the URL of a file or as a
document, it gives a path with the same ones, whatever the octets of its names.  A relative path has
no URL. -/
theorem components_toPath?_ofPath? :
    (∀ p : Path, p.isAbsolute = false → ofPath? p = none) ∧
    ∀ (p : Path) (names : List Bytes), p.components = .root :: names.map .name →
      (∀ n ∈ names.head?, isBarredDrive n = false) →
      ∃ uri q, ofPath? p = some uri ∧ Utf8.IsAscii uri.toList ∧
        toPath? uri = some q ∧ documentPath uri = q ∧ q.components = p.components := by
  constructor
  · intro p hp
    rw [← Option.not_isSome_iff_eq_none, isSome_ofPath?, hp]
    exact Bool.false_ne_true
  · intro p names hp hdrive
    have hnames : ∀ n ∈ names, IsName n := by
      intro n hn
      apply Path.isName_of_mem_components (p := p)
      rw [hp]
      exact List.mem_cons_of_mem _ (List.mem_map_of_mem hn)
    obtain ⟨q, hq, hcomponents⟩ := toPath?_pathPart hnames hdrive
    refine ⟨_, q, ofPath?_eq hp, ?_, hq, ?_, hcomponents.trans hp.symm⟩
    · intro c hc
      rw [String.toList_ofList] at hc
      have hvisible := visible_url names c hc
      omega
    · rw [documentPath, hq, Option.getD_some]

/-- Names with a drive letter, an encoded dot, marks that would end the path, a backslash, a control
and an octet that is no text. -/
theorem components_toPath?_ofPath?_names :
    Path.components ⟨[47, 67, 58, 47, 37, 50, 69, 47, 63, 35, 92, 9, 255]⟩ =
        .root :: [[67, 58], [37, 50, 69], [63, 35, 92, 9, 255]].map .name ∧
      (∀ n ∈ [[67, 58], [37, 50, 69], [63, 35, 92, 9, 255]].head?, isBarredDrive n = false) ∧
      ∃ uri q, ofPath? ⟨[47, 67, 58, 47, 37, 50, 69, 47, 63, 35, 92, 9, 255]⟩ = some uri ∧
        Utf8.IsAscii uri.toList ∧ toPath? uri = some q ∧ documentPath uri = q ∧
        q.components = Path.components ⟨[47, 67, 58, 47, 37, 50, 69, 47, 63, 35, 92, 9, 255]⟩ := by
  have hcomponents : Path.components ⟨[47, 67, 58, 47, 37, 50, 69, 47, 63, 35, 92, 9, 255]⟩ =
      .root :: [[67, 58], [37, 50, 69], [63, 35, 92, 9, 255]].map .name := by
    decide
  have hdrive : ∀ n ∈ [[67, 58], [37, 50, 69], [63, 35, 92, 9, 255]].head?,
      isBarredDrive n = false := by
    decide
  exact ⟨hcomponents, hdrive, components_toPath?_ofPath?.2 _ _ hcomponents hdrive⟩

/-- A first name of a letter and a bar comes back with a colon. -/
example : (ofPath? (.ofString "/C|/x")).bind toPath? = some (.ofString "/C:/x") := by
  decide +kernel

end Url

end HamlServer
