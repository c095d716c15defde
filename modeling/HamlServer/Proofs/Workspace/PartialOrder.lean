import HamlServer.Proofs.Text.Cut
import HamlServer.Proofs.Workspace.Partials

/-!
# The order of the files that a render call may mean

A way finds files, and a file may be found in several ways; it counts under the strongest of them.
The ranks of the ways lie further apart than nearness can make up for, so the results are ordered by
their strongest ways first, and within a way by the distance from the document, as far as that goes.

* `mem_foundPartials_iff`: what each way finds.
* `rank_lt_or_of_hitRank_le`: the order of ranks is that of ways, then that of distances.
* `ranked_partialFiles`: the results are what is found, each once and in this order.
* `definitions_ranked`: the places that a render call leads to are those of the results, where the
  root is absolute.
-/

namespace HamlServer

namespace Locate

open Text Template

variable {d : Directory} {views document file : Path} {found : List (Path × PartialWay)}
  {way : PartialWay} {hit : PartialHit} {name line base : List Char}

/-! ## What the ways find -/

/-- The last segment of the name of a partial. -/
def baseName (name : List Char) : List Char := (name.splitOn '/').getLastD []

/-- The file of a partial in a directory: the one with both endings, if there is such a file, and
else the one with the last ending only. -/
def IsPartialIn (d : Directory) (dir : Path) (base : List Char) (file : Path) : Prop :=
  let both := dir.child (String.ofList ('_' :: base ++ ".html.haml".toList))
  let last := dir.child (String.ofList ('_' :: base ++ ".haml".toList))
  d.isFile both = true ∧ file = both ∨
    d.isFile both = false ∧ d.isFile last = true ∧ file = last

/-- What a way finds: the file at the path that the name gives under the views, the one in the
directory of the document, the one in the shared directory, or any file under the views with a name
of the partial. -/
inductive Finds (d : Directory) (views document : Path) (name : List Char) :
    PartialWay → Path → Prop
  | exact {folder base : List Char} {file : Path} (hname : name = folder ++ '/' :: base)
      (hbase : '/' ∉ base) (hfile : IsPartialIn d (views.child (String.ofList folder)) base file) :
      Finds d views document name .exact file
  | near {dir file : Path} (hdir : viewDirectory? document views = some dir)
      (hfile : IsPartialIn d dir (baseName name) file) : Finds d views document name .near file
  | shared {file : Path} (hfile : IsPartialIn d (views.child "shared") (baseName name) file) :
      Finds d views document name .shared file
  | anywhere {place : Place} {dirs : List Bytes} {n : String} {content : Bytes}
      (hviews : d.tree.directory? d.cwd views = some place)
      (hmem : (place ++ (dirs ++ [Utf8.encode n]), content) ∈ d.tree.files)
      (hn : n ∈ partialFileNames (baseName name)) :
      Finds d views document name .anywhere (views.below (dirs ++ [Utf8.encode n]))

theorem partialIn?_eq_some_iff {dir : Path} :
    partialIn? d dir base = some file ↔ IsPartialIn d dir base file := by
  simp only [partialIn?, partialFileNames, List.map_cons, List.map_nil, IsPartialIn]
  generalize dir.child (String.ofList ('_' :: base ++ ".html.haml".toList)) = both
  generalize dir.child (String.ofList ('_' :: base ++ ".haml".toList)) = last
  cases hboth : d.isFile both with
  | true => simp [hboth, eq_comm (a := file)]
  | false =>
    cases hlast : d.isFile last with
    | true => simp [hboth, hlast, eq_comm (a := file)]
    | false => simp [hboth, hlast]

theorem exact_iff : (cutAtLast '/' name).bind
      (fun cut => partialIn? d (views.child (String.ofList cut.1)) cut.2) = some file ↔
    Finds d views document name .exact file := by
  rw [Option.bind_eq_some_iff]
  constructor
  · rintro ⟨⟨folder, base⟩, hcut, hin⟩
    rcases cutAtLast_cases '/' name with ⟨-, hnone⟩ | ⟨a, b, hname, hb, hsome⟩
    · rw [hnone] at hcut
      cases hcut
    · obtain ⟨rfl, rfl⟩ : a = folder ∧ b = base := by simpa [hsome] using hcut
      exact .exact hname hb (partialIn?_eq_some_iff.1 hin)
  · intro h
    cases h with
    | @exact folder base _ hname hbase hfile =>
      refine ⟨(folder, base), ?_, partialIn?_eq_some_iff.2 hfile⟩
      rw [hname, cutAtLast_append folder hbase]

theorem near_iff :
    (viewDirectory? document views).bind (partialIn? d · (baseName name)) = some file ↔
      Finds d views document name .near file := by
  rw [Option.bind_eq_some_iff]
  constructor
  · rintro ⟨dir, hdir, hin⟩
    exact .near hdir (partialIn?_eq_some_iff.1 hin)
  · intro h
    cases h with
    | near hdir hfile => exact ⟨_, hdir, partialIn?_eq_some_iff.2 hfile⟩

theorem shared_iff : partialIn? d (views.child "shared") (baseName name) = some file ↔
    Finds d views document name .shared file := by
  rw [partialIn?_eq_some_iff]
  refine ⟨.shared, fun h => ?_⟩
  cases h with
  | shared hfile => exact hfile

theorem anywhere_iff (hall : d.ScansAll views) :
    (∃ f ∈ (d.filesUnder views true).filter fun f =>
      (partialFileNames (baseName name)).any fun n => f.fileName == Utf8.encode n, f.path = file) ↔
    Finds d views document name .anywhere file := by
  constructor
  · rintro ⟨f, hf, rfl⟩
    obtain ⟨hscan, hany⟩ := List.mem_filter.1 hf
    have hbelow := Directory.mem_filesBelow_of_mem hscan
    obtain ⟨n, hn, hlast⟩ := List.any_eq_true.1 hany
    obtain ⟨place, hviews, -, hne, hmem⟩ := Directory.mem_filesBelow_iff.1 hbelow
    obtain ⟨dirs, last, hnames⟩ := List.eq_nil_or_concat f.names |>.resolve_left hne
    have hfile : f.fileName = last := by rw [Scanned.fileName, hnames]; simp
    obtain rfl : last = Utf8.encode n := hfile.symm.trans (beq_iff_eq.1 hlast)
    rw [Directory.path_of_mem_filesBelow hbelow, hnames, List.concat_eq_append]
    rw [hnames, List.concat_eq_append] at hmem
    exact .anywhere hviews hmem hn
  · intro h
    cases h with
    | @anywhere place dirs n content hviews hmem hn =>
      have hscan : ⟨views, dirs ++ [Utf8.encode n], content⟩ ∈ d.filesUnder views true :=
        hall.mem_iff.2 (Directory.mem_filesBelow_iff.2 ⟨place, hviews, rfl, by simp, hmem⟩)
      refine ⟨_, List.mem_filter.2 ⟨hscan, List.any_eq_true.2 ⟨n, hn, ?_⟩⟩, rfl⟩
      rw [Scanned.fileName, List.getLastD_concat, beq_self_eq_true]

/-- Where a scan takes all files under the views, the files found are those that the ways find. -/
theorem mem_foundPartials_iff (hall : d.ScansAll views) :
    (file, way) ∈ foundPartials d views document name ↔ Finds d views document name way file := by
  have hbase : (name.splitOn '/').getLastD [] = baseName name := rfl
  simp only [foundPartials, hbase, List.mem_append, Option.mem_toList, Option.map_eq_some_iff,
    List.mem_map, Prod.mk.injEq]
  cases way with
  | exact =>
    simp only [reduceCtorEq, and_false, exists_false, or_false, and_true, exists_eq_right]
    exact exact_iff
  | near =>
    simp only [reduceCtorEq, and_false, exists_false, or_false, false_or, and_true, exists_eq_right]
    exact near_iff
  | shared =>
    simp only [reduceCtorEq, and_false, exists_false, or_false, false_or, and_true, exists_eq_right]
    exact shared_iff
  | anywhere =>
    simp only [reduceCtorEq, and_false, exists_false, false_or, and_true]
    exact anywhere_iff hall

/-- Files found by ways that come in the order of their ranks, none of them weaker than `way`. -/
structure InOrder (found : List (Path × PartialWay)) (way : PartialWay) : Prop where
  pairwise : found.Pairwise fun a b => b.2.rank ≤ a.2.rank
  le : ∀ e ∈ found, way.rank ≤ e.2.rank

theorem InOrder.of_forall_eq (h : ∀ e ∈ found, e.2 = way) : InOrder found way where
  pairwise := List.pairwise_of_forall_mem_list fun a ha b hb =>
    Nat.le_of_eq (by rw [h a ha, h b hb])
  le e he := Nat.le_of_eq (by rw [h e he])

/-- What a weaker way finds may come behind. -/
theorem InOrder.append {stronger : PartialWay} {more : List (Path × PartialWay)}
    (h : InOrder found stronger) (hle : way.rank ≤ stronger.rank) (hmore : ∀ e ∈ more, e.2 = way) :
    InOrder (found ++ more) way where
  pairwise := List.pairwise_append.2 ⟨h.pairwise, (InOrder.of_forall_eq hmore).pairwise,
    fun a ha b hb => hmore b hb ▸ Nat.le_trans hle (h.le a ha)⟩
  le := List.forall_mem_append.2
    ⟨fun e he => Nat.le_trans hle (h.le e he), (InOrder.of_forall_eq hmore).le⟩

/-- The ways come in the order of their ranks. -/
theorem inOrder_foundPartials (d : Directory) (views document : Path) (name : List Char) :
    InOrder (foundPartials d views document name) .anywhere := by
  have hsome (o : Option Path) (way : PartialWay) : ∀ e ∈ (o.map (·, way)).toList, e.2 = way := by
    simp
  have hmap (fs : List Scanned) (way : PartialWay) : ∀ e ∈ fs.map (·.path, way), e.2 = way := by
    simp
  have hexact (o : Option Path) : InOrder (o.map (·, .exact)).toList .exact :=
    .of_forall_eq (hsome o .exact)
  exact (((hexact _).append (by decide) (hsome _ .near)).append (by decide)
    (hsome _ .shared)).append (by decide) (hmap _ .anywhere)

/-! ## The strongest way -/

/-- A file as the strongest way finds it: no stronger way finds one with the same components. -/
structure IsStrongest (d : Directory) (views document : Path) (name : List Char)
    (way : PartialWay) (file : Path) : Prop where
  finds : Finds d views document name way file
  same_eq_false : ∀ stronger other, way.rank < stronger.rank →
    Finds d views document name stronger other → other.same file = false

theorem PartialWay.rank_injective {a b : PartialWay} (h : a.rank = b.rank) : a = b := by
  cases a <;> cases b <;> first | rfl | cases h

/-- Ways that differ lie further apart than a hundred. -/
theorem PartialWay.rank_gap {a b : PartialWay} (h : a.rank < b.rank) : a.rank + 100 < b.rank := by
  cases a <;> cases b <;> revert h <;> decide

theorem IsStrongest.unique {other : PartialWay} (h : IsStrongest d views document name way file)
    (hother : IsStrongest d views document name other file) : way = other := by
  have hsame : file.same file ≠ false := by simp [same_self]
  refine PartialWay.rank_injective (Nat.le_antisymm ?_ ?_)
  · exact Nat.le_of_not_lt fun hlt => hsame (hother.same_eq_false _ _ hlt h.finds)
  · exact Nat.le_of_not_lt fun hlt => hsame (h.same_eq_false _ _ hlt hother.finds)

/-- Every hit counts under the strongest way that finds its file. -/
theorem exists_isStrongest (hall : d.ScansAll views)
    (h : hit ∈ distinctHits document (foundPartials d views document name)) :
    ∃ way, IsStrongest d views document name way hit.file ∧
      hit.rank = hitRank document hit.file way := by
  obtain ⟨before, file, way, after, hfound, hbefore, rfl⟩ := exists_first_found h
  have hmem : (file, way) ∈ foundPartials d views document name := by
    rw [hfound]
    exact List.mem_append_right _ List.mem_cons_self
  refine ⟨way, ⟨(mem_foundPartials_iff hall).1 hmem, fun stronger other hlt hother => ?_⟩, rfl⟩
  -- what a stronger way finds stands in front
  have hpairwise := (inOrder_foundPartials d views document name).pairwise
  rw [hfound, List.pairwise_append, List.pairwise_cons] at hpairwise
  rcases List.mem_append.1 (hfound ▸ (mem_foundPartials_iff hall).2 hother) with hin | hin
  · exact hbefore _ hin
  · rcases List.mem_cons.1 hin with heq | hin
    · obtain ⟨-, rfl⟩ := Prod.mk.inj heq
      exact absurd hlt (Nat.lt_irrefl _)
    · exact absurd hlt (Nat.not_lt.2 (hpairwise.2.1.1 _ hin))

/-! ## Distances -/

/-- The number of steps from the directory of a document to that of a file. -/
def stepsTo (document file : Path) : Nat := document.directory.distance file.directory

/-- The files of a partial have names that a file can have. -/
theorem isName_of_mem_partialFileNames {n : String} (hbase : '/' ∉ base)
    (hn : n ∈ partialFileNames base) : IsName (Utf8.encode n) := by
  simp only [partialFileNames, List.mem_cons, List.not_mem_nil, or_false] at hn
  rcases hn with rfl | rfl
  · exact Rails.isName_underscore (by simpa using hbase)
  · exact Rails.isName_underscore (by simpa using hbase)

theorem slash_notMem_baseName (name : List Char) : '/' ∉ baseName name :=
  notMem_getLastD_splitOn '/' name

theorem IsPartialIn.exists_eq_join {dir : Path} (hbase : '/' ∉ base)
    (h : IsPartialIn d dir base file) : ∃ n, IsName n ∧ file = dir.join ⟨n⟩ := by
  rcases h with ⟨-, rfl⟩ | ⟨-, -, rfl⟩
  · exact ⟨_, isName_of_mem_partialFileNames hbase List.mem_cons_self, rfl⟩
  · refine ⟨_, isName_of_mem_partialFileNames hbase ?_, rfl⟩
    exact List.mem_cons_of_mem _ List.mem_cons_self

/-- What a way finds is a name in a directory. -/
theorem Finds.exists_eq_join (h : Finds d views document name way file) :
    ∃ (dir : Path) (n : Bytes), IsName n ∧ file = dir.join ⟨n⟩ := by
  cases h with
  | exact hname hbase hfile => exact ⟨_, hfile.exists_eq_join hbase⟩
  | near hdir hfile => exact ⟨_, hfile.exists_eq_join (slash_notMem_baseName name)⟩
  | shared hfile => exact ⟨_, hfile.exists_eq_join (slash_notMem_baseName name)⟩
  | @anywhere _ dirs n _ hviews hmem hn =>
    exact ⟨views.below dirs, Utf8.encode n,
      isName_of_mem_partialFileNames (slash_notMem_baseName name) hn, Path.below_append ..⟩

theorem Finds.hitRank_eq (h : Finds d views document name way file) :
    hitRank document file way = way.rank + (100 - 10 * stepsTo document file) := by
  obtain ⟨dir, n, hn, rfl⟩ := h.exists_eq_join
  simp only [hitRank, stepsTo, Path.directory, Path.parent?, Path.getLast?_components_join dir hn,
    Option.map_some, Option.getD_some]

/-- The order of ranks is that of the ways and, within a way, that of the distances up to ten. -/
theorem rank_lt_or_of_hitRank_le {other : PartialWay} {file' : Path}
    (h : Finds d views document name way file) (h' : Finds d views document name other file')
    (hle : hitRank document file' other ≤ hitRank document file way) :
    other.rank < way.rank ∨
      other = way ∧ min 10 (stepsTo document file) ≤ min 10 (stepsTo document file') := by
  rw [h.hitRank_eq, h'.hitRank_eq] at hle
  rcases Nat.lt_trichotomy other.rank way.rank with hlt | heq | hgt
  · exact Or.inl hlt
  · exact Or.inr ⟨PartialWay.rank_injective heq, by omega⟩
  · have hgap := PartialWay.rank_gap hgt
    omega

/-! ## The order of the results -/

/-- Files in the order in which a render call may mean them: what the ways find, each file once; the
stronger ways first, and what one way finds by the number of steps, as far as ten. -/
structure Ranked (d : Directory) (views document : Path) (name : List Char) (files : List Path) :
    Prop where
  distinct : files.Pairwise fun a b => a.same b = false
  strongest : ∀ file ∈ files, ∃ way, IsStrongest d views document name way file
  complete : ∀ way file, Finds d views document name way file → ∃ other ∈ files, other.same file
  ordered : files.Pairwise fun a b => ∀ way other, IsStrongest d views document name way a →
    IsStrongest d views document name other b →
      other.rank < way.rank ∨
        other = way ∧ min 10 (stepsTo document a) ≤ min 10 (stepsTo document b)

/-- Where a scan takes all files under the views, the results are what the ways find, each file once
and in the order of ranks. -/
theorem ranked_partialFiles (hname : renderedName? line = some name)
    (hviews : d.isDirectory views = true) (hall : d.ScansAll views) :
    Ranked d views document name (partialFiles d views document line) := by
  generalize hhits : distinctHits document (foundPartials d views document name) = hits
  have hfiles : partialFiles d views document line =
      (hits.mergeSort fun a b => b.rank ≤ a.rank).map (·.file) := by
    simp only [partialFiles, hname, if_pos hviews, hhits]
  have hstrongest {hit : PartialHit} (h : hit ∈ hits.mergeSort fun a b => b.rank ≤ a.rank) :
      ∃ way, IsStrongest d views document name way hit.file ∧
        hit.rank = hitRank document hit.file way :=
    exists_isStrongest hall (hhits ▸ List.mem_mergeSort.1 h)
  have hdistinct : hits.Pairwise fun a b => a.file.same b.file = false :=
    hhits ▸ pairwise_distinctHits document _
  constructor
  · rw [hfiles, List.pairwise_map]
    refine hdistinct.perm (List.mergeSort_perm hits _).symm fun {a b} hab => ?_
    exact (Bool.beq_comm ..).trans hab
  · rw [hfiles, List.forall_mem_map]
    intro hit hmem
    obtain ⟨way, hway, -⟩ := hstrongest hmem
    exact ⟨way, hway⟩
  · intro way file hfile
    exact exists_mem_partialFiles hname hviews ((mem_foundPartials_iff hall).2 hfile)
  · rw [hfiles, List.pairwise_map]
    refine (pairwise_mergeSort_rank hits).imp_of_mem fun {a b} ha hb hle way other hway hother => ?_
    obtain ⟨way', hway', harank⟩ := hstrongest ha
    obtain ⟨other', hother', hbrank⟩ := hstrongest hb
    obtain rfl := hway.unique hway'
    obtain rfl := hother.unique hother'
    exact rank_lt_or_of_hitRank_le hway.finds hother.finds (harank ▸ hbrank ▸ hle)

theorem isAbsolute_of_viewDirectory? {dir : Path} (hviews : views.isAbsolute = true)
    (h : viewDirectory? document views = some dir) : dir.isAbsolute = true := by
  rw [viewDirectory?] at h
  split at h
  · next hunder => exact Path.isAbsolute_of_parent? (Path.isAbsolute_of_isUnder hviews hunder) h
  · obtain ⟨sub, -, rfl⟩ := Option.map_eq_some_iff.1 h
    exact Path.isAbsolute_join hviews _

theorem IsPartialIn.isAbsolute {dir : Path} (hdir : dir.isAbsolute = true)
    (h : IsPartialIn d dir base file) : file.isAbsolute = true := by
  rcases h with ⟨-, rfl⟩ | ⟨-, -, rfl⟩
  · exact Path.isAbsolute_join hdir _
  · exact Path.isAbsolute_join hdir _

/-- What is found from an absolute directory of views has an absolute path. -/
theorem Finds.isAbsolute (hviews : views.isAbsolute = true)
    (h : Finds d views document name way file) : file.isAbsolute = true := by
  cases h with
  | exact hname hbase hfile => exact hfile.isAbsolute (Path.isAbsolute_join hviews _)
  | near hdir hfile => exact hfile.isAbsolute (isAbsolute_of_viewDirectory? hviews hdir)
  | shared hfile => exact hfile.isAbsolute (Path.isAbsolute_join hviews _)
  | anywhere hplace hmem hn => exact Path.isAbsolute_below hviews _

end Locate

namespace Workspace

open Text Template Rails Locate

variable {w : Workspace} {root document : Path} {name line word : List Char}

/-- Files that all have a place lead to these places, one for each. -/
theorem forall₂_filterMap_locationOf? {files : List Path}
    (h : ∀ file ∈ files, file.isAbsolute = true) :
    List.Forall₂ (fun file l => Url.ofPath? file = some l.uri) files
      (files.filterMap (locationOf? · 0)) := by
  induction files with
  | nil => exact List.Forall₂.nil
  | cons file files ih =>
    rw [List.forall_mem_cons] at h
    obtain ⟨l, hl, huri⟩ := exists_locationOf? h.1 0
    rw [List.filterMap_cons_some (f := (locationOf? · 0)) hl]
    exact List.Forall₂.cons huri (ih h.2)

/-- Where a scan takes all files under the views, the files that a render call may mean are those
that the ways find, each once and in the order of ranks.  With an absolute root, each of them is a
place that the call leads to, and behind these come the places of routes and assets. -/
theorem definitions_ranked (hroot : w.root = some root) (hall : w.files.ScansAll (viewsOf root))
    (document : Path) (hname : renderedName? line = some name) (hword : word ≠ []) :
    (w.files.isDirectory (viewsOf root) = false →
      partialFiles w.files (viewsOf root) document line = []) ∧
    (w.files.isDirectory (viewsOf root) = true →
      Ranked w.files (viewsOf root) document name
        (partialFiles w.files (viewsOf root) document line)) ∧
    ∃ locations,
      w.definitions document line word =
        locations ++ (if w.isRails then w.railsDefinitions root line word else []) ∧
      (root.isAbsolute = true →
        List.Forall₂ (fun file l => Url.ofPath? file = some l.uri)
          (partialFiles w.files (viewsOf root) document line) locations) := by
  have hnone (hviews : w.files.isDirectory (viewsOf root) = false) :
      partialFiles w.files (viewsOf root) document line = [] := by
    simp only [partialFiles, hname, hviews, Bool.false_eq_true, if_false]
  have hranked (hviews : w.files.isDirectory (viewsOf root) = true) :
      Ranked w.files (viewsOf root) document name
        (partialFiles w.files (viewsOf root) document line) := ranked_partialFiles hname hviews hall
  have hline : line ≠ [] := by
    rintro rfl
    cases hname
  refine ⟨hnone, hranked, _, definitions_eq hroot document hline hword, fun habs => ?_⟩
  refine forall₂_filterMap_locationOf? fun file hfile => ?_
  cases hviews : w.files.isDirectory (viewsOf root) with
  | false =>
    rw [hnone hviews] at hfile
    cases hfile
  | true =>
    obtain ⟨way, hway⟩ := (hranked hviews).strongest file hfile
    exact hway.finds.isAbsolute (isAbsolute_viewsOf habs)

/-- The twins are found by the exact path and elsewhere. -/
theorem definitions_ranked_twins :
    twins.root = some (.ofString "/p") ∧ twins.files.ScansAll (viewsOf (.ofString "/p")) ∧
    renderedName? "= render 'users/form'".toList = some "users/form".toList ∧
    Ranked twins.files (viewsOf (.ofString "/p")) (.ofString "/p/app/views/users/edit.html.haml")
      "users/form".toList (partialFiles twins.files (viewsOf (.ofString "/p"))
        (.ofString "/p/app/views/users/edit.html.haml") "= render 'users/form'".toList) := by
  have hall : twins.files.ScansAll (viewsOf (.ofString "/p")) := by decide
  have hname : renderedName? "= render 'users/form'".toList = some "users/form".toList := by decide
  have hroot : twins.root = some (.ofString "/p") := rfl
  have hword : "form".toList ≠ [] := by decide
  obtain ⟨-, hranked, -⟩ := definitions_ranked hroot hall
    (.ofString "/p/app/views/users/edit.html.haml") hname hword
  exact ⟨hroot, hall, hname, hranked (by decide)⟩

end Workspace

end HamlServer
