import HamlServer.Proofs.Files.Path
import HamlServer.Proofs.Text.Cut

/-!
# What a scan finds

In a tree as a file system keeps it, every file has a name, and all places on the way to it are
directories.  There a path to names under a directory leads to a file exactly where the names are
those of a file below it.  A scan finds all files below a directory, or as many as it takes where
there are more.  A scanned file is shown by the texts of its names, joined by slashes.

* `FileTree.Sound`, `FileTree.Sound.write`: a tree as a file system keeps it.
* `Directory.mem_filesBelow_iff`: the files below a directory.
* `Directory.length_filesUnder`, `Directory.ScansAll.mem_iff`: what a scan finds of them.
* `Directory.isFile_below_iff`: a path leads to a file exactly where one lies below the directory.
* `Scanned.ShownAs.relative_eq`: how a scanned file is shown.
-/

namespace HamlServer

variable {t : FileTree} {cwd base place x : Place} {names : List Bytes} {d : Directory}
  {dir p : Path} {f : Scanned} {content : Bytes}

/-! ## Entries -/

namespace FileTree

/-- A tree as a file system keeps it: its files have names, and all places above a file are
directories. -/
structure Sound (t : FileTree) : Prop where
  isName : ∀ file ∈ t.files, ∀ n ∈ file.1, IsName n
  closed : ∀ file ∈ t.files, ∀ above ∈ ancestors file.1,
    t.files.lookup above = none ∧ above ∈ t.directories

instance (t : FileTree) : Decidable t.Sound :=
  decidable_of_iff ((∀ file ∈ t.files, ∀ n ∈ file.1, IsName n) ∧
      ∀ file ∈ t.files, ∀ above ∈ ancestors file.1,
        t.files.lookup above = none ∧ above ∈ t.directories)
    ⟨fun h => ⟨h.1, h.2⟩, fun h => ⟨h.isName, h.closed⟩⟩

theorem ne_of_mem_ancestors {above : Place} (h : above ∈ ancestors place) : above ≠ place := by
  obtain ⟨k, hk, rfl⟩ := List.mem_map.1 h
  rw [List.mem_range] at hk
  intro heq
  have hlength := congrArg List.length heq
  rw [List.length_take] at hlength
  omega

theorem sound_empty : empty.Sound :=
  ⟨fun _ h => absurd h List.not_mem_nil, fun _ h => absurd h List.not_mem_nil⟩

/-- Writing a file keeps a tree as a file system does, so long as no directory stands in its place
and no file above it. -/
theorem Sound.write (h : t.Sound) (hname : ∀ n ∈ place, IsName n)
    (hplace : place ∉ t.directories)
    (hfree : ∀ above ∈ ancestors place, t.files.lookup above = none) (content : Bytes) :
    (t.write place content).Sound := by
  have hfiles {file : Place × Bytes} (hfile : file ∈ (t.write place content).files) :
      file ∈ t.files ∨ file = (place, content) := by
    rcases List.mem_append.1 hfile with hfile | hfile
    · exact Or.inl (List.mem_filter.1 hfile).1
    · exact Or.inr (List.mem_singleton.1 hfile)
  have hlookup {above : Place} (hnone : t.files.lookup above = none) (hne : above ≠ place) :
      (t.write place content).files.lookup above = none := by
    rw [List.lookup_eq_none_iff] at hnone ⊢
    intro file hfile
    rcases hfiles hfile with hfile | rfl
    · exact hnone file hfile
    · exact bne_iff_ne.2 hne
  have hkept {above : Place} (hmem : above ∈ t.directories ∨ above ∈ ancestors place) :
      above ∈ (t.write place content).directories := by
    by_cases hold : above ∈ t.directories
    · exact List.mem_append_left _ hold
    · refine List.mem_append_right _ (List.mem_filter.2 ⟨hmem.resolve_left hold, ?_⟩)
      simpa using hold
  refine ⟨fun file hfile => ?_, fun file hfile above habove => ?_⟩
  · rcases hfiles hfile with hfile | rfl
    · exact h.isName file hfile
    · exact hname
  · rcases hfiles hfile with hfile | rfl
    · obtain ⟨hnone, hmem⟩ := h.closed file hfile above habove
      exact ⟨hlookup hnone fun he => hplace (he ▸ hmem), hkept (Or.inl hmem)⟩
    · exact ⟨hlookup (hfree above habove) (ne_of_mem_ancestors habove), hkept (Or.inr habove)⟩

theorem entryAt_eq_file_iff :
    t.entryAt place = .ok (.file x content) ↔ x = place ∧ t.files.lookup place = some content := by
  unfold entryAt
  cases t.files.lookup place with
  | some found => simp [eq_comm]
  | none => by_cases h : place ∈ t.directories <;> simp [h]

theorem entryAt_eq_directory_iff :
    t.entryAt place = .ok (.directory x) ↔
      x = place ∧ t.files.lookup place = none ∧ place ∈ t.directories := by
  unfold entryAt
  cases t.files.lookup place with
  | some found => simp
  | none => by_cases h : place ∈ t.directories <;> simp [h, eq_comm]

theorem directoryAt_eq_ok_iff :
    t.directoryAt place = .ok x ↔ t.entryAt place = .ok (.directory x) := by
  unfold directoryAt
  cases t.entryAt place with
  | error e => simp
  | ok entry =>
    cases entry with
    | file y content => simp
    | directory y => simp

/-- A directory lies where it was looked for. -/
theorem eq_of_directoryAt (h : t.directoryAt place = .ok x) : x = place :=
  (entryAt_eq_directory_iff.1 (directoryAt_eq_ok_iff.1 h)).1

theorem directoryAt_of_closed (hlookup : t.files.lookup place = none)
    (hmem : place ∈ t.directories) : t.directoryAt place = .ok place :=
  directoryAt_eq_ok_iff.2 (entryAt_eq_directory_iff.2 ⟨rfl, hlookup, hmem⟩)

/-! ## Following names -/

theorem follow_append (t : FileTree) (place : Place) (xs ys : List Bytes) :
    t.follow place (xs ++ ys) = (t.follow place xs).bind (t.follow · ys) := by
  induction xs generalizing place with
  | nil => rfl
  | cons x xs ih =>
    rw [List.cons_append, follow, follow]
    cases t.directoryAt place with
    | error e => rfl
    | ok found => exact ih (stepPlace found x)

/-- Names lead to the place that lies under the base by them, if they lead anywhere. -/
theorem eq_of_follow (hnames : ∀ n ∈ names, IsName n) (h : t.follow place names = .ok x) :
    x = place ++ names := by
  induction names generalizing place with
  | nil =>
    obtain rfl : place = x := by simpa [follow] using h
    simp
  | cons n names ih =>
    rw [follow] at h
    cases hd : t.directoryAt place with
    | error e =>
      rw [hd] at h
      cases h
    | ok found =>
      have hfound : found = place := eq_of_directoryAt hd
      have hstep : t.follow (stepPlace found n) names = .ok x := by
        rw [hd] at h
        exact h
      rw [hfound, (hnames n List.mem_cons_self).stepPlace_eq] at hstep
      have hx := ih (fun m hm => hnames m (List.mem_cons_of_mem n hm)) hstep
      rw [hx, List.append_assoc, List.singleton_append]

/-- Names lead to their place where all places on the way are directories. -/
theorem follow_names (hnames : ∀ n ∈ names, IsName n)
    (habove : ∀ k < names.length,
      t.directoryAt (place ++ names.take k) = .ok (place ++ names.take k)) :
    t.follow place names = .ok (place ++ names) := by
  induction names generalizing place with
  | nil => simp [follow]
  | cons n names ih =>
    have hhere : t.directoryAt place = .ok place := by
      simpa using habove 0 (by simp)
    have hnext : t.follow (place ++ [n]) names = .ok (place ++ [n] ++ names) := by
      refine ih (fun m hm => hnames m (List.mem_cons_of_mem n hm)) fun k hk => ?_
      simpa using habove (k + 1) (by simpa using hk)
    rw [follow, hhere]
    show t.follow (stepPlace place n) names = _
    rw [(hnames n List.mem_cons_self).stepPlace_eq, hnext, List.append_assoc,
      List.singleton_append]

/-! ## Looking up paths -/

theorem lookup_eq_ok_iff {e : Entry} :
    t.lookup cwd p = .ok e ↔ p.octets ≠ [] ∧ ∃ place,
      t.follow (if p.isAbsolute then [] else cwd) (p.octets.splitOn slash) = .ok place ∧
        t.entryAt place = .ok e := by
  unfold lookup
  by_cases hnil : p.octets = []
  · simp [hnil]
  · rw [if_neg hnil]
    cases t.follow (if p.isAbsolute then [] else cwd) (p.octets.splitOn slash) with
    | error e => simp [hnil, bind, Except.bind]
    | ok found => simp [hnil, bind, Except.bind]

theorem directory?_eq_some_iff :
    t.directory? cwd p = some base ↔ t.lookup cwd p = .ok (.directory base) := by
  unfold directory?
  cases t.lookup cwd p with
  | error e => simp
  | ok entry =>
    cases entry with
    | file y content => simp
    | directory y => simp

theorem isFile_iff :
    t.isFile cwd p = true ↔ ∃ place content, t.lookup cwd p = .ok (.file place content) := by
  unfold isFile read?
  cases t.lookup cwd p with
  | error e => simp
  | ok entry =>
    cases entry with
    | file y content => simp
    | directory y => simp

/-- Behind a directory, names are followed from its place. -/
theorem lookup_below_eq_ok_iff {e : Entry} (hdir : dir.TakesName)
    (hnames : ∀ n ∈ names, IsName n) (hbase : t.directory? cwd dir = some base) :
    t.lookup cwd (dir.below names) = .ok e ↔
      ∃ place, t.follow base names = .ok place ∧ t.entryAt place = .ok e := by
  obtain ⟨-, start, hstart, hentry⟩ := lookup_eq_ok_iff.1 (directory?_eq_some_iff.1 hbase)
  obtain rfl : base = start := (entryAt_eq_directory_iff.1 hentry).1
  have hne : (dir.below names).octets ≠ [] := by
    rw [Path.octets_below hdir hnames]
    exact List.append_ne_nil_of_left_ne_nil hdir.ne_nil _
  rw [lookup_eq_ok_iff, Path.isAbsolute_below_eq hdir hnames, Path.splitOn_below hdir hnames,
    follow_append, hstart]
  exact and_iff_right hne

/-- The directory of a file is one. -/
theorem directory?_of_lookup_below (hdir : dir.TakesName) {n : Bytes} (hn : IsName n) {e : Entry}
    (h : t.lookup cwd (dir.below [n]) = .ok e) : ∃ base, t.directory? cwd dir = some base := by
  have hnames : ∀ m ∈ [n], IsName m := fun m hm => by rwa [List.mem_singleton.1 hm]
  obtain ⟨-, place, hfollow, -⟩ := lookup_eq_ok_iff.1 h
  rw [Path.isAbsolute_below_eq hdir hnames, Path.splitOn_below hdir hnames,
    follow_append] at hfollow
  cases hstart : t.follow (if dir.isAbsolute then [] else cwd) (dir.octets.splitOn slash) with
  | error e =>
    rw [hstart] at hfollow
    cases hfollow
  | ok base =>
    rw [hstart] at hfollow
    have hlast : t.follow base [n] = .ok place := hfollow
    rw [follow] at hlast
    cases hd : t.directoryAt base with
    | error e =>
      rw [hd] at hlast
      cases hlast
    | ok found =>
      obtain rfl : found = base := eq_of_directoryAt hd
      refine ⟨found, directory?_eq_some_iff.2 (lookup_eq_ok_iff.2 ⟨hdir.ne_nil, found, hstart, ?_⟩)⟩
      exact directoryAt_eq_ok_iff.1 hd

end FileTree

/-! ## Scans -/

namespace Directory

theorem namesBelow_eq_some_iff :
    namesBelow base place = some names ↔ place = base ++ names ∧ names ≠ [] := by
  unfold namesBelow
  constructor
  · intro h
    split at h
    · next hfit =>
      obtain ⟨back, rfl⟩ := List.isPrefixOf_iff_prefix.1 hfit.1
      obtain rfl : back = names := by simpa using h
      refine ⟨rfl, fun hnil => ?_⟩
      have hlt := hfit.2
      rw [hnil, List.append_nil] at hlt
      omega
    · cases h
  · rintro ⟨rfl, hne⟩
    have hpos : 0 < names.length := List.length_pos_iff.2 hne
    have hlt : base.length < (base ++ names).length := by
      rw [List.length_append]
      omega
    rw [if_pos ⟨List.isPrefixOf_iff_prefix.2 (List.prefix_append base names), hlt⟩,
      List.drop_left]

/-- Below a directory are the files whose places lie under its own. -/
theorem mem_filesBelow_iff :
    f ∈ d.filesBelow dir ↔
      ∃ base, d.tree.directory? d.cwd dir = some base ∧ f.base = dir ∧ f.names ≠ [] ∧
        (base ++ f.names, f.content) ∈ d.tree.files := by
  unfold filesBelow
  cases d.tree.directory? d.cwd dir with
  | none => simp
  | some base =>
    simp only [List.mem_filterMap, Option.map_eq_some_iff, namesBelow_eq_some_iff, Prod.exists,
      Option.some.injEq, exists_eq_left']
    constructor
    · rintro ⟨place, content, hmem, names, ⟨rfl, hne⟩, rfl⟩
      exact ⟨rfl, hne, hmem⟩
    · rintro ⟨hbase, hne, hmem⟩
      refine ⟨base ++ f.names, f.content, hmem, f.names, ⟨rfl, hne⟩, ?_⟩
      rw [← hbase]

/-- A scan finds files below the directory; without `recursive`, those in the directory itself. -/
theorem mem_of_mem_filesUnder {recursive : Bool} (hf : f ∈ d.filesUnder dir recursive) :
    f ∈ d.filesBelow dir ∧ (recursive = true ∨ f.names.length = 1) := by
  have hmet := List.mem_of_mem_take (List.mem_mergeSort.1 hf)
  rwa [List.mem_filter, Bool.or_eq_true, beq_iff_eq] at hmet

theorem mem_filesBelow_of_mem {recursive : Bool} (hf : f ∈ d.filesUnder dir recursive) :
    f ∈ d.filesBelow dir := (mem_of_mem_filesUnder hf).1

/-- There are no more files below a directory than a scan takes. -/
def ScansAll (d : Directory) (dir : Path) : Prop := (d.filesBelow dir).length ≤ scanLimit

instance (d : Directory) (dir : Path) : Decidable (d.ScansAll dir) :=
  inferInstanceAs (Decidable (_ ≤ _))

theorem filesUnder_true_perm (d : Directory) (dir : Path) :
    (d.filesUnder dir true).Perm ((d.filesBelow dir).take scanLimit) := by
  have hall : (d.filesBelow dir).filter (fun f => true || f.names.length == 1) =
      d.filesBelow dir := List.filter_eq_self.2 fun _ _ => rfl
  unfold filesUnder
  rw [hall]
  exact List.mergeSort_perm _ _

/-- A scan finds no more files than it takes. -/
theorem length_filesUnder (d : Directory) (dir : Path) :
    (d.filesUnder dir true).length = min scanLimit (d.filesBelow dir).length := by
  rw [(filesUnder_true_perm d dir).length_eq, List.length_take]

theorem ScansAll.perm (h : d.ScansAll dir) : (d.filesUnder dir true).Perm (d.filesBelow dir) := by
  have hperm := filesUnder_true_perm d dir
  rwa [List.take_of_length_le h] at hperm

/-- Where there are not too many, a scan finds all files. -/
theorem ScansAll.mem_iff (h : d.ScansAll dir) :
    f ∈ d.filesUnder dir true ↔ f ∈ d.filesBelow dir := h.perm.mem_iff

theorem isName_of_mem_filesBelow (hsound : d.tree.Sound) (hf : f ∈ d.filesBelow dir) :
    ∀ n ∈ f.names, IsName n := by
  obtain ⟨base, -, -, -, hmem⟩ := mem_filesBelow_iff.1 hf
  exact fun n hn => hsound.isName _ hmem n (List.mem_append_right base hn)

theorem path_of_mem_filesBelow (hf : f ∈ d.filesBelow dir) : f.path = dir.below f.names := by
  obtain ⟨base, -, hdir, -⟩ := mem_filesBelow_iff.1 hf
  rw [← hdir]
  rfl

/-- A path to names under a directory leads to a file exactly where one lies below it. -/
theorem isFile_below_iff (hsound : d.tree.Sound) (hdir : dir.TakesName)
    (hnames : ∀ n ∈ names, IsName n) (hne : names ≠ []) (his : d.isDirectory dir = true) :
    d.isFile (dir.below names) = true ↔
      ∃ content, ⟨dir, names, content⟩ ∈ d.filesBelow dir := by
  obtain ⟨base, hbase⟩ := Option.isSome_iff_exists.1 his
  simp only [mem_filesBelow_iff, hbase, Option.some.injEq, exists_eq_left', true_and]
  rw [isFile, FileTree.isFile_iff]
  simp only [FileTree.lookup_below_eq_ok_iff hdir hnames hbase]
  constructor
  · rintro ⟨place, content, reached, hfollow, hentry⟩
    obtain rfl : reached = base ++ names := FileTree.eq_of_follow hnames hfollow
    have hlookup := (FileTree.entryAt_eq_file_iff.1 hentry).2
    obtain ⟨front, back, hfiles, -⟩ := List.lookup_eq_some_iff.1 hlookup
    refine ⟨content, hne, ?_⟩
    rw [hfiles]
    exact List.mem_append_right front List.mem_cons_self
  · rintro ⟨content, -, hmem⟩
    have hfollow : d.tree.follow base names = .ok (base ++ names) := by
      refine FileTree.follow_names hnames fun k hk => ?_
      -- the places on the way lie above the file
      have habove : base ++ names.take k ∈ FileTree.ancestors (base ++ names) := by
        refine List.mem_map.2 ⟨base.length + k, List.mem_range.2 ?_, List.take_length_add_append k⟩
        rw [List.length_append]
        omega
      obtain ⟨hfree, hdirectory⟩ := hsound.closed _ hmem _ habove
      exact FileTree.directoryAt_of_closed hfree hdirectory
    obtain ⟨found, hfound⟩ : ∃ found, d.tree.files.lookup (base ++ names) = some found :=
      Option.isSome_iff_exists.1 (List.lookup_isSome_iff.2 ⟨_, hmem, beq_self_eq_true _⟩)
    exact ⟨base ++ names, found, base ++ names, hfollow,
      FileTree.entryAt_eq_file_iff.2 ⟨rfl, hfound⟩⟩

theorem isDirectory_of_mem_filesBelow (hf : f ∈ d.filesBelow dir) : d.isDirectory dir = true := by
  obtain ⟨base, hbase, -⟩ := mem_filesBelow_iff.1 hf
  exact Option.isSome_iff_exists.2 ⟨base, hbase⟩

/-- What lies below a directory is a file. -/
theorem isFile_of_mem_filesBelow (hsound : d.tree.Sound) (hdir : dir.TakesName)
    (hf : f ∈ d.filesBelow dir) : d.isFile f.path = true := by
  obtain ⟨base, hbase, hfbase, hne, hmem⟩ := mem_filesBelow_iff.1 hf
  rw [path_of_mem_filesBelow hf, isFile_below_iff hsound hdir (isName_of_mem_filesBelow hsound hf)
    hne (isDirectory_of_mem_filesBelow hf)]
  exact ⟨f.content, mem_filesBelow_iff.2 ⟨base, hbase, rfl, hne, hmem⟩⟩

/-- The directory of a file is a directory. -/
theorem isDirectory_of_isFile (hdir : dir.TakesName) {n : Bytes} (hn : IsName n)
    (h : d.isFile (dir.join ⟨n⟩) = true) : d.isDirectory dir = true := by
  obtain ⟨place, content, hlookup⟩ := FileTree.isFile_iff.1 h
  exact Option.isSome_iff_exists.2 (FileTree.directory?_of_lookup_below hdir hn hlookup)

end Directory

/-! ## Texts -/

/-- Whether octets spell a text of certain characters. -/
def Utf8.Spells (allowed : Char → Bool) (b : Bytes) : Prop :=
  ∃ s : List Char, encode (String.ofList s) = b ∧ ∀ c ∈ s, allowed c = true

/-- Whether the names of all files under a directory spell texts of certain characters. -/
def Directory.NamesSpell (d : Directory) (allowed : Char → Bool) (dir : Path) : Prop :=
  ∀ f ∈ d.filesBelow dir, ∀ n ∈ f.names, Utf8.Spells allowed n

theorem Utf8.spells_encode {allowed : Char → Bool} {s : String}
    (h : s.toList.all allowed = true) : Spells allowed (encode s) :=
  ⟨s.toList, by rw [String.ofList_toList], List.all_eq_true.1 h⟩

/-- Where all names of a tree spell texts, those under a directory do. -/
theorem Directory.namesSpell_of_files {allowed : Char → Bool}
    (h : ∀ file ∈ d.tree.files, ∀ n ∈ file.1, Utf8.Spells allowed n) (dir : Path) :
    d.NamesSpell allowed dir := by
  intro f hf n hn
  obtain ⟨base, -, -, -, hmem⟩ := mem_filesBelow_iff.1 hf
  exact h _ hmem n (List.mem_append_right base hn)

/-- The octets of texts, each for itself. -/
def Utf8.encodeAll (texts : List (List Char)) : List Bytes :=
  texts.map fun s => encode (String.ofList s)

variable {texts dirs : List (List Char)}

theorem Utf8.encodeAll_append (texts more : List (List Char)) :
    encodeAll (texts ++ more) = encodeAll texts ++ encodeAll more := List.map_append

theorem Utf8.encode_intercalate (texts : List (List Char)) :
    encode (String.ofList (List.intercalate ['/'] texts)) =
      List.intercalate [slash] (encodeAll texts) := by
  induction texts with
  | nil => rfl
  | cons s texts ih =>
    cases texts with
    | nil => simp [encodeAll]
    | cons s' texts =>
      rw [List.intercalate_cons_cons, encodeAll, List.map_cons, List.map_cons,
        List.intercalate_cons_cons, ← List.map_cons (f := fun s => encode (String.ofList s)),
        ← encodeAll, ← ih]
      simp only [encode_ofList, List.flatMap_append]
      rfl

/-- Names that spell texts are the octets of those texts. -/
theorem Utf8.exists_texts {allowed : Char → Bool} (h : ∀ n ∈ names, Spells allowed n) :
    ∃ texts, encodeAll texts = names ∧ ∀ s ∈ texts, ∀ c ∈ s, allowed c = true := by
  induction names with
  | nil => exact ⟨[], rfl, fun s hs => absurd hs List.not_mem_nil⟩
  | cons n names ih =>
    obtain ⟨s, hs, hallowed⟩ := h n List.mem_cons_self
    obtain ⟨texts, htexts, hall⟩ := ih fun m hm => h m (List.mem_cons_of_mem n hm)
    refine ⟨s :: texts, by rw [encodeAll, List.map_cons, hs, ← encodeAll, htexts], ?_⟩
    rw [List.forall_mem_cons]
    exact ⟨hallowed, hall⟩

/-- The octets of a text with a slash are no name. -/
theorem slash_notMem_of_isName {s : List Char} (h : IsName (Utf8.encode (String.ofList s))) :
    '/' ∉ s := by
  intro hmem
  refine h.slash_notMem ?_
  rw [Utf8.encode_ofList, List.mem_flatMap]
  exact ⟨'/', hmem, List.mem_cons_self⟩

/-! ## Directories of a text -/

section

variable {α : Type} {sep : α} {dirs : List (List α)}

/-- Joined by slashes, a file stands behind its directories, each of them closed by a slash. -/
theorem intercalate_concat (dirs : List (List α)) (file : List α) :
    List.intercalate [sep] (dirs ++ [file]) = dirs.flatMap (· ++ [sep]) ++ file := by
  induction dirs with
  | nil => simp
  | cons dir dirs ih =>
    obtain ⟨s, rest, hs⟩ := List.exists_cons_of_ne_nil
      (List.append_ne_nil_of_right_ne_nil dirs (List.cons_ne_nil file []))
    rw [List.cons_append, hs, List.intercalate_cons_cons, ← hs, ih, List.flatMap_cons,
      List.append_assoc, List.append_assoc, List.append_assoc]

/-- Directories that are each closed by a slash are joined by slashes, with one behind them. -/
theorem flatMap_slash (hne : dirs ≠ []) :
    dirs.flatMap (· ++ [sep]) = List.intercalate [sep] dirs ++ [sep] := by
  rcases List.eq_nil_or_concat dirs with hnil | ⟨front, last, hdirs⟩
  · exact absurd hnil hne
  · rw [hdirs, List.concat_eq_append, intercalate_concat, List.flatMap_append,
      List.flatMap_singleton, List.append_assoc]

end

/-- Directories that are joined to one text lead to the same path. -/
theorem Path.child_intercalate (hp : p.TakesName)
    (hnames : ∀ n ∈ Utf8.encodeAll dirs, IsName n) (hne : dirs ≠ []) :
    p.child (String.ofList (List.intercalate ['/'] dirs)) = p.below (Utf8.encodeAll dirs) := by
  rw [← join_intercalate hp hnames (mt List.map_eq_nil_iff.1 hne), ← Utf8.encode_intercalate]
  rfl

theorem Path.child_below (p : Path) (dirs : List (List Char)) (s : List Char) :
    (p.below (Utf8.encodeAll dirs)).child (String.ofList s) =
      p.below (Utf8.encodeAll (dirs ++ [s])) := by
  rw [Utf8.encodeAll_append, below_append]
  rfl

/-! ## How a scanned file is shown -/

/-- The texts of the names of a scanned file, in certain characters: those of its directories and
its own. -/
structure Scanned.ShownAs (f : Scanned) (allowed : Char → Bool) (dirs : List (List Char))
    (file : List Char) : Prop where
  names_eq : Utf8.encodeAll (dirs ++ [file]) = f.names
  allowed : ∀ s ∈ dirs ++ [file], ∀ c ∈ s, allowed c = true
  slash_notMem : '/' ∉ file

variable {allowed : Char → Bool} {file : List Char}

theorem Directory.exists_shownAs (hsound : d.tree.Sound) (hnames : d.NamesSpell allowed dir)
    (hf : f ∈ d.filesBelow dir) : ∃ dirs file, f.ShownAs allowed dirs file := by
  obtain ⟨texts, htexts, hall⟩ := Utf8.exists_texts (hnames f hf)
  have hne : texts ≠ [] := by
    rintro rfl
    obtain ⟨_, -, -, hnil, -⟩ := mem_filesBelow_iff.1 hf
    exact hnil htexts.symm
  rcases List.eq_nil_or_concat texts with hnil | ⟨dirs, file, hconcat⟩
  · exact absurd hnil hne
  · rw [List.concat_eq_append] at hconcat
    subst hconcat
    refine ⟨dirs, file, htexts, hall, slash_notMem_of_isName ?_⟩
    refine isName_of_mem_filesBelow hsound hf _ ?_
    rw [← htexts]
    exact List.mem_map.2 ⟨file, List.mem_append_right dirs List.mem_cons_self, rfl⟩

/-- A text without a backslash is shown as it is. -/
theorem map_shown_eq_self {s : List Char} (h : '\\' ∉ s) :
    (s.map fun c => if c = '\\' then '/' else c) = s := by
  have hkept : ∀ c ∈ s, (if c = '\\' then '/' else c) = id c := by
    intro c hc
    refine if_neg ?_
    rintro rfl
    exact h hc
  rw [List.map_congr_left hkept, List.map_id]

namespace Scanned.ShownAs

/-- A scanned file is shown by the texts of its names, with slashes between them; a backslash is
shown as a slash. -/
theorem relative_eq (h : f.ShownAs allowed dirs file) :
    f.relative = (dirs.flatMap (· ++ ['/']) ++ file).map fun c => if c = '\\' then '/' else c := by
  rw [Scanned.relative, ← h.names_eq, ← Utf8.encode_intercalate, Utf8.decodeLossy_encode,
    String.toList_ofList, intercalate_concat]

theorem fileName_eq (h : f.ShownAs allowed dirs file) :
    f.fileName = Utf8.encode (String.ofList file) := by
  rw [Scanned.fileName, ← h.names_eq, Utf8.encodeAll_append]
  exact List.getLastD_concat

theorem allowed_of_mem (h : f.ShownAs allowed dirs file) {c : Char}
    (hc : c ∈ dirs.flatMap (· ++ ['/']) ++ file) : c = '/' ∨ allowed c = true := by
  rcases List.mem_append.1 hc with hc | hc
  · obtain ⟨s, hs, hc⟩ := List.mem_flatMap.1 hc
    rcases List.mem_append.1 hc with hc | hc
    · exact Or.inr (h.allowed s (List.mem_append_left _ hs) c hc)
    · exact Or.inl (List.mem_singleton.1 hc)
  · exact Or.inr (h.allowed file (List.mem_append_right dirs List.mem_cons_self) c hc)

end Scanned.ShownAs

end HamlServer
