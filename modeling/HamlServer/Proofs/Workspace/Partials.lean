import HamlServer.Locate.Definition
import HamlServer.Proofs.Locate.PartialFile
import HamlServer.Proofs.Rails.Partial
import HamlServer.Suggest.PartialCall

/-!
# Partials: what is offered is found

Completion goes from the files under the views to the names that render them, navigation from such a
name back to files.  As long as the names of files are texts in which no character ends a quoted
argument or is shown as another one, the two undo each other: where the name of a partial is
rendered, the file that it was offered for is among the places to go to.  A name with a directory
leads first to a file of that very name, which may be the twin of the offered one with the other
ending.

* `partialIn?_of_renderName?`: the file in a directory that a name leads to.
* `partialOf?_of_shownAs`: the name of a scanned file.
* `definitions_of_partialItems`: every partial that is offered is found.
-/

namespace HamlServer.Workspace

open Text Template Rails Suggest Locate

variable {w : Workspace} {d : Directory} {root views dir : Path} {f : Scanned} {p : Partial}
  {dirs : List (List Char)} {file stem name line word : List Char}

/-! ## The files of a name -/

/-- In a directory that holds a file of a name, the name leads to such a file. -/
theorem partialIn?_of_renderName? (hfile : '/' ∉ file) (h : renderName? file = some stem)
    (his : d.isFile (dir.child (String.ofList file)) = true) :
    ∃ g, '/' ∉ g ∧ renderName? g = some stem ∧
      partialIn? d dir stem = some (dir.child (String.ofList g)) ∧
      d.isFile (dir.child (String.ofList g)) = true := by
  obtain ⟨hne, hfiles⟩ := (renderName?_eq_some_iff hfile).1 h
  have hstem : '/' ∉ stem := fun hmem => hfile (subset_of_renderName? hfile h hmem)
  have hboth : '/' ∉ '_' :: stem ++ ".html.haml".toList := by
    simpa using hstem
  simp only [partialIn?, partialFileNames, List.map_cons, List.map_nil, List.find?_cons,
    List.find?_nil]
  cases hpreferred : d.isFile (dir.child (String.ofList ('_' :: stem ++ ".html.haml".toList))) with
  | true =>
    exact ⟨_, hboth, (renderName?_eq_some_iff hboth).2 ⟨hne, Or.inl rfl⟩, rfl, hpreferred⟩
  | false =>
    -- then the file has the last ending only
    rcases hfiles with rfl | ⟨rfl, -⟩
    · rw [hpreferred] at his
      cases his
    · exact ⟨_, hfile, h, by rw [his], his⟩

/-! ## The texts of a scanned file -/

/-- A character that neither ends a quoted argument nor is shown as another one. -/
def isPlain (c : Char) : Bool := c != '\\' && !isQuote c

/-- Where no character of its texts is shown as another one, a file is shown by just these. -/
theorem relative_eq_of_isPlain (h : f.ShownAs isPlain dirs file) :
    f.relative = dirs.flatMap (· ++ ['/']) ++ file := by
  have hbackslash : '\\' ∉ dirs.flatMap (· ++ ['/']) ++ file := by
    intro hc
    rcases h.allowed_of_mem hc with hslash | hplain
    · cases hslash
    · cases hplain
  rw [h.relative_eq, map_shown_eq_self hbackslash]

/-- The partial that such a file is: its directories are a part of the name. -/
theorem partialOf?_of_shownAs (h : f.ShownAs isPlain dirs file) :
    partialOf? f = (renderName? file).map fun stem =>
      ⟨String.ofList (dirs.flatMap (· ++ ['/']) ++ stem), f.path, f.directory,
        localsOf f.content⟩ := by
  have hname :
      renderName? f.relative = (renderName? file).map (dirs.flatMap (· ++ ['/']) ++ ·) := by
    rw [relative_eq_of_isPlain h]
    by_cases hdirs : dirs = []
    · simp [hdirs]
    · rw [flatMap_slash hdirs, List.append_assoc, List.singleton_append,
        renderName?_append _ h.slash_notMem]
      simp only [List.append_assoc, List.singleton_append]
  rw [partialOf?, hname, Option.map_map]
  rfl

/-- Of the partials under the views, each is the file of a name, in directories with names. -/
theorem exists_of_mem_partials (hsound : d.tree.Sound) (hplain : d.NamesSpell isPlain views)
    (hp : p ∈ partials d views) :
    ∃ f dirs file stem, f ∈ d.filesUnder views true ∧ f.ShownAs isPlain dirs file ∧
      renderName? file = some stem ∧ p.file = f.path ∧
      p.name = String.ofList (dirs.flatMap (· ++ ['/']) ++ stem) := by
  obtain ⟨f, hf, hpartial⟩ := List.mem_filterMap.1 hp
  obtain ⟨dirs, file, hshown⟩ :=
    Directory.exists_shownAs hsound hplain (Directory.mem_filesBelow_of_mem hf)
  rw [partialOf?_of_shownAs hshown] at hpartial
  obtain ⟨stem, hstem, rfl⟩ := Option.map_eq_some_iff.1 hpartial
  exact ⟨f, dirs, file, stem, hf, hshown, hstem, rfl, rfl⟩

/-- The file of a name is a partial of that name. -/
theorem exists_partialOf? (h : f.ShownAs isPlain dirs file) (hstem : renderName? file = some stem) :
    ∃ p, partialOf? f = some p ∧ p.file = f.path ∧
      p.name = String.ofList (dirs.flatMap (· ++ ['/']) ++ stem) := by
  have hpartial := partialOf?_of_shownAs h
  rw [hstem, Option.map_some] at hpartial
  exact ⟨_, hpartial, rfl, rfl⟩

/-- A name of a partial is not empty and ends no quoted argument. -/
theorem name_plain (h : f.ShownAs isPlain dirs file) (hstem : renderName? file = some stem) :
    dirs.flatMap (· ++ ['/']) ++ stem ≠ [] ∧
      ∀ c ∈ dirs.flatMap (· ++ ['/']) ++ stem, isQuote c = false := by
  have hne : stem ≠ [] := ((renderName?_eq_some_iff h.slash_notMem).1 hstem).1
  refine ⟨List.append_ne_nil_of_right_ne_nil _ hne, fun c hc => ?_⟩
  have hmem : c ∈ dirs.flatMap (· ++ ['/']) ++ file := by
    rcases List.mem_append.1 hc with hc | hc
    · exact List.mem_append_left _ hc
    · exact List.mem_append_right _ (subset_of_renderName? h.slash_notMem hstem hc)
  rcases h.allowed_of_mem hmem with rfl | hplain
  · rfl
  · rw [isPlain, Bool.and_eq_true, Bool.not_eq_true'] at hplain
    exact hplain.2

/-! ## Places -/

theorem takesName_viewsOf (root : Path) : (viewsOf root).TakesName := by
  have hviews : (Path.ofString "views").TakesName := by decide
  exact hviews.join (root.child "app")

theorem isAbsolute_viewsOf (habs : root.isAbsolute = true) : (viewsOf root).isAbsolute = true :=
  Path.isAbsolute_join (Path.isAbsolute_join habs _) _

theorem exists_locationOf? {q : Path} (habs : q.isAbsolute = true) (n : Nat) :
    ∃ l, locationOf? q n = some l ∧ Url.ofPath? q = some l.uri := by
  rw [← Url.isSome_ofPath?] at habs
  obtain ⟨uri, huri⟩ := Option.isSome_iff_exists.1 habs
  exact ⟨⟨uri, .lineStart (UInt32.ofNat n)⟩, by rw [locationOf?, huri, Option.map_some], huri⟩

/-- The files of a partial come first among the places that a line leads to. -/
theorem definitions_eq (hroot : w.root = some root) (document : Path) (hline : line ≠ [])
    (hword : word ≠ []) :
    w.definitions document line word =
      (partialFiles w.files (viewsOf root) document line).filterMap (locationOf? · 0) ++
        if w.isRails then w.railsDefinitions root line word else [] := by
  have hgiven : (line.isEmpty || word.isEmpty) = false := by
    rw [Bool.or_eq_false_iff, List.isEmpty_eq_false_iff, List.isEmpty_eq_false_iff]
    exact ⟨hline, hword⟩
  simp only [definitions, hroot, hgiven]
  rfl

theorem exists_definitions_eq (hroot : w.root = some root) (document : Path) (hline : line ≠ [])
    (hword : word ≠ []) :
    ∃ others, w.definitions document line word =
      (partialFiles w.files (viewsOf root) document line).filterMap (locationOf? · 0) ++
        others :=
  ⟨_, definitions_eq hroot document hline hword⟩

theorem closedCall_ne_nil (helper : String) (s : List Char) : closedCall helper s ≠ [] := by
  rw [closedCall_eq]
  exact List.cons_ne_nil _ _

/-- The file of a name is found wherever it lies under the views. -/
theorem mem_foundPartials (document : Path) (hf : f ∈ d.filesUnder views true)
    (h : f.ShownAs isPlain dirs file) (hstem : renderName? file = some stem) :
    (f.path, .anywhere) ∈
      foundPartials d views document (dirs.flatMap (· ++ ['/']) ++ stem) := by
  have hslash : '/' ∉ stem := fun hmem =>
    h.slash_notMem (subset_of_renderName? h.slash_notMem hstem hmem)
  have hbase : ((dirs.flatMap (· ++ ['/']) ++ stem).splitOn '/').getLastD [] = stem := by
    by_cases hdirs : dirs = []
    · rw [hdirs]
      exact getLastD_splitOn hslash
    · rw [flatMap_slash hdirs, List.append_assoc, List.singleton_append,
        getLastD_splitOn_append_cons _ hslash]
  have hmember : String.ofList file ∈ partialFileNames stem := by
    obtain ⟨-, rfl | ⟨rfl, -⟩⟩ := (renderName?_eq_some_iff h.slash_notMem).1 hstem
    · exact List.mem_cons_self
    · exact List.mem_cons_of_mem _ List.mem_cons_self
  have haccepted : (partialFileNames stem).any (fun n => f.fileName == Utf8.encode n) = true :=
    List.any_eq_true.2 ⟨_, hmember, beq_iff_eq.2 h.fileName_eq⟩
  simp only [foundPartials, hbase]
  exact List.mem_append_right _
    (List.mem_map.2 ⟨f, List.mem_filter.2 ⟨hf, haccepted⟩, rfl⟩)

/-- A name with a directory leads by its path to a file of that name. -/
theorem exists_exact (hsound : d.tree.Sound) (hviews : views.TakesName)
    (hf : f ∈ d.filesBelow views) (h : f.ShownAs isPlain dirs file)
    (hstem : renderName? file = some stem) (hdirs : dirs ≠ []) :
    ∃ g file', g ∈ d.filesBelow views ∧ g.ShownAs isPlain dirs file' ∧
      renderName? file' = some stem ∧
      partialIn? d (views.child (String.ofList (List.intercalate ['/'] dirs))) stem =
        some g.path := by
  have hnames : ∀ n ∈ Utf8.encodeAll dirs, IsName n := fun n hn =>
    Directory.isName_of_mem_filesBelow hsound hf n (by
      rw [← h.names_eq, Utf8.encodeAll_append]
      exact List.mem_append_left _ hn)
  have his : d.isFile ((views.below (Utf8.encodeAll dirs)).child (String.ofList file)) = true := by
    rw [Path.child_below, h.names_eq, ← Directory.path_of_mem_filesBelow hf]
    exact Directory.isFile_of_mem_filesBelow hsound hviews hf
  obtain ⟨file', hslash, hstem', hin, his'⟩ := partialIn?_of_renderName? h.slash_notMem hstem his
  rw [Path.child_below] at hin his'
  -- the file that the name leads to lies under the views, too
  have hnames' : ∀ n ∈ Utf8.encodeAll (dirs ++ [file']), IsName n := by
    rw [Utf8.encodeAll_append, List.forall_mem_append]
    refine ⟨hnames, List.forall_mem_singleton.2 ?_⟩
    exact isName_of_renderName? hslash hstem'
  have hne : Utf8.encodeAll (dirs ++ [file']) ≠ [] := by
    simp [Utf8.encodeAll]
  obtain ⟨content, hg⟩ := (Directory.isFile_below_iff hsound hviews hnames' hne
    (Directory.isDirectory_of_mem_filesBelow hf)).1 his'
  have hplain : ∀ c ∈ file', isPlain c = true := by
    intro c hc
    rcases mem_of_renderName? hslash hstem' hc with hc | hc
    · exact h.allowed file (List.mem_append_right dirs List.mem_cons_self) c
        (subset_of_renderName? h.slash_notMem hstem hc)
    · have hall : "_.html.haml".toList.all isPlain = true := by decide
      exact List.all_eq_true.1 hall c hc
  refine ⟨_, file', hg, ⟨rfl, ?_, hslash⟩, hstem', ?_⟩
  · rw [List.forall_mem_append]
    exact ⟨fun s hs => h.allowed s (List.mem_append_left _ hs), List.forall_mem_singleton.2 hplain⟩
  · rw [Path.child_intercalate hviews hnames hdirs]
    exact hin

/-! ## Candidates -/

/-- A candidate for a partial, in some call and selected beforehand or not. -/
def Offers (document : Path) (i : CompletionItem) (p : Partial) : Prop :=
  ∃ quote named selected,
    i = { partialItem quote named (document.directory.distance p.directory) p with
      preselect := selected }

theorem exists_of_mem_preselectFirst {i : CompletionItem} {items : List CompletionItem}
    (h : i ∈ preselectFirst items) :
    ∃ j ∈ items, ∃ selected, i = { j with preselect := selected } := by
  cases items with
  | nil => cases h
  | cons first rest =>
    rcases List.mem_cons.1 h with rfl | h
    · exact ⟨first, List.mem_cons_self, true, rfl⟩
    · exact ⟨i, List.mem_cons_of_mem first h, i.preselect, rfl⟩

/-- Nothing but partials is offered in a render call. -/
theorem exists_offers {document : Path} {i : CompletionItem}
    (h : i ∈ partialItems d views document line) : ∃ p ∈ partials d views, Offers document i p := by
  unfold partialItems at h
  split at h
  · cases h
  · next quote _ =>
    obtain ⟨j, hj, selected, rfl⟩ := exists_of_mem_preselectFirst h
    obtain ⟨p, hp, rfl⟩ := List.mem_map.1 (List.mem_mergeSort.1 hj)
    exact ⟨p, hp, quote, (findMatch namedAt? line).isSome, selected, rfl⟩

/-! ## What is offered is found -/

/-- Rendering a partial by its name leads to its file. -/
theorem exists_mem_definitions (hroot : w.root = some root) (habs : root.isAbsolute = true)
    (hsound : w.files.tree.Sound)
    (hplain : w.files.NamesSpell isPlain (viewsOf root))
    (document : Path) (hword : word ≠ []) (hp : p ∈ partials w.files (viewsOf root)) :
    ∃ l ∈ w.definitions document (closedCall "render" p.name.toList) word,
      Url.ofPath? p.file = some l.uri := by
  obtain ⟨f, dirs, file, stem, hf, hshown, hstem, hfile, hname⟩ :=
    exists_of_mem_partials hsound hplain hp
  obtain ⟨hne, hquote⟩ := name_plain hshown hstem
  have hbelow := Directory.mem_filesBelow_of_mem hf
  rw [hname, hfile, String.toList_ofList]
  obtain ⟨other, hother, hsame⟩ := exists_mem_partialFiles
    (renderedName?_closedCall hne hquote) (Directory.isDirectory_of_mem_filesBelow hbelow)
    (mem_foundPartials document hf hshown hstem)
  have huri : Url.ofPath? other = Url.ofPath? f.path := Url.ofPath?_congr hsame
  have hfabs : f.path.isAbsolute = true := by
    rw [Directory.path_of_mem_filesBelow hbelow]
    exact Path.isAbsolute_below (isAbsolute_viewsOf habs) f.names
  obtain ⟨l, hl, hluri⟩ := exists_locationOf? hfabs 0
  have hlocation : locationOf? other 0 = some l := by
    rw [← hl, locationOf?, locationOf?, huri]
  obtain ⟨others, hdefinitions⟩ := exists_definitions_eq hroot document
    (closedCall_ne_nil "render" (dirs.flatMap (· ++ ['/']) ++ stem)) hword
  rw [hdefinitions]
  exact ⟨l, List.mem_append_left _ (List.mem_filterMap.2 ⟨other, hother, hlocation⟩), hluri⟩

/-- A name with a directory leads first to a file of that name. -/
theorem exists_head?_definitions (hroot : w.root = some root) (habs : root.isAbsolute = true)
    (hsound : w.files.tree.Sound)
    (hplain : w.files.NamesSpell isPlain (viewsOf root))
    (document : Path) (hword : word ≠ []) (hp : p ∈ partials w.files (viewsOf root))
    (hslash : '/' ∈ p.name.toList) :
    ∃ l, (w.definitions document (closedCall "render" p.name.toList) word).head? = some l ∧
      ∃ g ∈ w.files.filesBelow (viewsOf root), ∃ q, partialOf? g = some q ∧ q.name = p.name ∧
        Url.ofPath? q.file = some l.uri := by
  obtain ⟨f, dirs, file, stem, hf, hshown, hstem, -, hname⟩ :=
    exists_of_mem_partials hsound hplain hp
  obtain ⟨hne, hquote⟩ := name_plain hshown hstem
  have hbelow := Directory.mem_filesBelow_of_mem hf
  have hstemSlash : '/' ∉ stem := fun hmem =>
    hshown.slash_notMem (subset_of_renderName? hshown.slash_notMem hstem hmem)
  have hdirs : dirs ≠ [] := by
    rintro rfl
    rw [hname, String.toList_ofList] at hslash
    exact hstemSlash hslash
  have hcut : cutAtLast '/' (dirs.flatMap (· ++ ['/']) ++ stem) =
      some (List.intercalate ['/'] dirs, stem) := by
    rw [flatMap_slash hdirs, List.append_assoc, List.singleton_append,
      cutAtLast_append _ hstemSlash]
  obtain ⟨g, file', hg, hshown', hstem', hexact⟩ :=
    exists_exact hsound (takesName_viewsOf root) hbelow hshown hstem hdirs
  have hhead : (partialFiles w.files (viewsOf root) document
      (closedCall "render" (dirs.flatMap (· ++ ['/']) ++ stem))).head? = some g.path :=
    head?_partialFiles (renderedName?_closedCall hne hquote)
      (Directory.isDirectory_of_mem_filesBelow hbelow) hcut hexact
  obtain ⟨rest, hrest⟩ := List.head?_eq_some_iff.1 hhead
  have hgabs : g.path.isAbsolute = true := by
    rw [Directory.path_of_mem_filesBelow hg]
    exact Path.isAbsolute_below (isAbsolute_viewsOf habs) g.names
  obtain ⟨l, hl, hluri⟩ := exists_locationOf? hgabs 0
  obtain ⟨others, hdefinitions⟩ := exists_definitions_eq hroot document
    (closedCall_ne_nil "render" (dirs.flatMap (· ++ ['/']) ++ stem)) hword
  obtain ⟨q, hq, hqfile, hqname⟩ := exists_partialOf? hshown' hstem'
  refine ⟨l, ?_, g, hg, q, hq, by rw [hqname, hname], by rw [hqfile, hluri]⟩
  have hfirst : (g.path :: rest).filterMap (locationOf? · 0) =
      l :: rest.filterMap (locationOf? · 0) := List.filterMap_cons_some hl
  rw [hname, String.toList_ofList, hdefinitions, hrest, hfirst]
  rfl

/-- In a workspace with an absolute root, where the names of the files under the views are texts in
which no character ends a quoted argument or is shown as another one, all that completion offers in
a render call are partials.  Rendering any partial by its name leads to its file; and where the name
has a directory, it leads first to a file of that name, one under the views that a scan need not
have reached. -/
theorem definitions_of_partialItems (hroot : w.root = some root) (habs : root.isAbsolute = true)
    (hsound : w.files.tree.Sound)
    (hplain : w.files.NamesSpell isPlain (viewsOf root))
    (document : Path) (hword : word ≠ []) :
    (∀ line, ∀ i ∈ partialItems w.files (viewsOf root) document line,
      ∃ p ∈ partials w.files (viewsOf root), Offers document i p) ∧
    ∀ p ∈ partials w.files (viewsOf root),
      (∃ l ∈ w.definitions document (closedCall "render" p.name.toList) word,
        Url.ofPath? p.file = some l.uri) ∧
      ('/' ∈ p.name.toList →
        ∃ l, (w.definitions document (closedCall "render" p.name.toList) word).head? = some l ∧
          ∃ g ∈ w.files.filesBelow (viewsOf root), ∃ q, partialOf? g = some q ∧ q.name = p.name ∧
            Url.ofPath? q.file = some l.uri) := by
  refine ⟨fun line i hi => exists_offers hi, fun p hp => ⟨?_, fun hslash => ?_⟩⟩
  · exact exists_mem_definitions hroot habs hsound hplain document hword hp
  · exact exists_head?_definitions hroot habs hsound hplain document hword hp hslash

/-- A workspace with two partials of one name. -/
def twins : Workspace where
  files :=
    ⟨(FileTree.empty.write (["p", "app", "views", "users", "_form.haml"].map Utf8.encode) []).write
      (["p", "app", "views", "users", "_form.html.haml"].map Utf8.encode) [], []⟩
  root := some (.ofString "/p")
  isRails := true
  routes := none

/-- The twin that does not come first is found, too. -/
theorem definitions_of_partialItems_twins :
    ∃ l ∈ twins.definitions (.ofString "/p/app/views/users/edit.html.haml")
      "= render 'users/form'".toList "form".toList,
      l.uri = "file:///p/app/views/users/_form.haml" := by
  have hnames : ∀ file ∈ twins.files.tree.files, ∀ n ∈ file.1,
      ∃ s ∈ ["p", "app", "views", "users", "_form.haml", "_form.html.haml"],
        s.toList.all isPlain = true ∧ Utf8.encode s = n := by decide
  have hplain : twins.files.NamesSpell isPlain (viewsOf (.ofString "/p")) := by
    refine Directory.namesSpell_of_files (fun file hfile n hn => ?_) _
    obtain ⟨s, -, hs, rfl⟩ := hnames file hfile n hn
    exact Utf8.spells_encode hs
  let f : Scanned := ⟨viewsOf (.ofString "/p"), ["users", "_form.haml"].map Utf8.encode, []⟩
  have hall : twins.files.ScansAll (viewsOf (.ofString "/p")) := by decide
  have hf : f ∈ twins.files.filesUnder (viewsOf (.ofString "/p")) true :=
    hall.mem_iff.2 (Directory.mem_filesBelow_iff.2 ⟨["p", "app", "views"].map Utf8.encode,
      by decide, rfl, by decide, by decide⟩)
  have hallowed : ["users".toList, "_form.haml".toList].all (·.all isPlain) = true := by decide
  have hshown : f.ShownAs isPlain ["users".toList] "_form.haml".toList :=
    ⟨rfl, fun s hs => List.all_eq_true.1 (List.all_eq_true.1 hallowed s hs), by decide⟩
  have hstem : renderName? "_form.haml".toList = some "form".toList := by decide
  obtain ⟨p, hpartial, hfile, hname⟩ := exists_partialOf? hshown hstem
  have hp : p ∈ partials twins.files (viewsOf (.ofString "/p")) :=
    List.mem_filterMap.2 ⟨f, hf, hpartial⟩
  have hroot : twins.root = some (.ofString "/p") := rfl
  have hword : "form".toList ≠ [] := by decide
  obtain ⟨l, hl, huri⟩ := ((definitions_of_partialItems hroot (by decide) (by decide) hplain
    (.ofString "/p/app/views/users/edit.html.haml") hword).2 p hp).1
  rw [hname] at hl
  refine ⟨l, hl, ?_⟩
  have hplace : Url.ofPath? f.path = some "file:///p/app/views/users/_form.haml" := by rfl
  rw [hfile, hplace] at huri
  exact (Option.some.inj huri).symm

end HamlServer.Workspace
