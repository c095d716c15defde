import HamlServer.Locate.Definition
import HamlServer.Proofs.Locate.AssetFile
import HamlServer.Proofs.Rails.Asset
import HamlServer.Suggest.AssetName

/-!
# Assets: what is offered and what of it is found

Completion goes from files to the names that a helper takes, navigation from such a name to files.
The name of an image is its path, and that is always found.  The name of a bundle is that of its
file without the extension.  It is found if it does not look like a name with an extension: then
every extension is tried.  A name that still ends in a dot and letters or digits, as that of
`application.min.js` does, is looked for as it stands, and found only if some path below the
directories happens to end with it.

* `resolves_iff`: what it takes that a name is found.
* `assetItems_openCall`: what is offered behind the opening quote.
* `resolves_of_assetItems`: the offered names that are found.
* `not_resolves_minified`: one that is not.
-/

namespace HamlServer.Workspace

open Text Template Rails Suggest Locate

variable {d : Directory} {family : AssetFamily} {root : Path} {helper : String} {f : Scanned}
  {dirs : List (List Char)} {path name x ext stem : List Char} {i : CompletionItem}

/-! ## What is found -/

/-- Whether a call of a helper with a name leads to any place. -/
def Resolves (d : Directory) (root : Path) (helper : String) (name : List Char) : Prop :=
  (assetFiles d root (closedCall helper name)).filterMap (locationOf? · 0) ≠ []

/-- A name is found where some directory of the family has a file for it. -/
theorem resolves_iff (habs : root.isAbsolute = true) (hfamily : family ∈ linkedFamilies)
    (hhelper : helper ∈ family.helpers) (hne : name ≠ [])
    (hquote : ∀ c ∈ name, isQuote c = false) :
    Resolves d root helper name ↔
      ∃ s ∈ family.directories, (assetIn? d family name (root.child s)).isSome = true := by
  unfold Resolves assetFiles
  rw [assetReference?_closedCall hfamily hhelper hne hquote]
  constructor
  · intro h
    obtain ⟨l, hl⟩ := List.exists_mem_of_ne_nil _ h
    obtain ⟨file, hfile, -⟩ := List.mem_filterMap.1 hl
    obtain ⟨dir, hdir, hin⟩ := List.mem_filterMap.1 hfile
    obtain ⟨s, hs, rfl⟩ := List.mem_map.1 hdir
    exact ⟨s, hs, Option.isSome_iff_exists.2 ⟨file, hin⟩⟩
  · rintro ⟨s, hs, hsome⟩
    obtain ⟨file, hin⟩ := Option.isSome_iff_exists.1 hsome
    have hfile : file.isAbsolute = true :=
      isAbsolute_of_assetIn? (Path.isAbsolute_join habs _) hin
    rw [← Url.isSome_ofPath?] at hfile
    obtain ⟨uri, huri⟩ := Option.isSome_iff_exists.1 hfile
    have hlocation : locationOf? file 0 = some ⟨uri, .lineStart 0⟩ := by
      rw [locationOf?, huri]
      rfl
    exact List.ne_nil_of_mem (List.mem_filterMap.2 ⟨file, List.mem_filterMap.2
      ⟨root.child s, List.mem_map.2 ⟨s, hs, rfl⟩, hin⟩, hlocation⟩)

/-! ## What is offered -/

/-- The helpers that the statements are about serve one family each. -/
theorem servedBy_eq (hfamily : family ∈ linkedFamilies) (hhelper : helper ∈ family.helpers)
    (hcommon : helper ≠ AssetFamily.commonHelper) :
    helper ∈ assetHelpers ∧ AssetFamily.servedBy helper = [family] ∧
      loadsBundles helper = decide (family ≠ .image) := by
  have hall : ∀ family ∈ linkedFamilies, ∀ helper ∈ family.helpers,
      helper ≠ AssetFamily.commonHelper → helper ∈ assetHelpers ∧
        AssetFamily.servedBy helper = [family] ∧
        loadsBundles helper = decide (family ≠ .image) := by decide
  exact hall family hfamily helper hhelper hcommon

theorem toldApart_assetHelpers : ToldApart assetHelpers := ⟨by decide, by decide, by decide⟩

theorem assetCall?_openCall (hhelper : helper ∈ assetHelpers) :
    assetCall? (openCall helper) = some (helper, []) := by
  have hstart : StartsInk (helper.toList ++ [' ', '\'']) :=
    (toldApart_assetHelpers.startsInk hhelper).append _
  have hcall : quotedCallAt? (helper.toList ++ [' ', '\'']) = some (helper, []) := by
    rw [quotedCallAt?, callAt?_append toldApart_assetHelpers hhelper]
    rfl
  rw [assetCall?, openCall, findMatch_outputAt? hstart hcall, Option.orElse_some]

/-- Behind the opening quote, all assets of the helper are offered. -/
theorem assetItems_openCall (hhelper : helper ∈ assetHelpers) (d : Directory) (root : Path) :
    assetItems d root (openCall helper) = (assetPaths d root helper).map (assetItem helper) := by
  have hall : ∀ p ∈ assetPaths d root helper,
      ([] : List Char).isPrefixOf (assetName helper p) = true := fun p _ => rfl
  simp only [assetItems, assetCall?_openCall hhelper, List.filter_eq_self.2 hall]

/-- An asset that is offered is a file of one of the directories; for a bundle, it lies in the
directory itself. -/
theorem exists_of_mem_assetPaths (hfamily : family ∈ linkedFamilies)
    (hhelper : helper ∈ family.helpers) (hcommon : helper ≠ AssetFamily.commonHelper)
    (h : path ∈ assetPaths d root helper) :
    ∃ s ∈ family.directories, ∃ f ∈ d.filesUnder (root.child s) (decide (family = .image)),
      hasExtension family.extensions f = true ∧ f.relative = path := by
  obtain ⟨-, hserved, hbundles⟩ := servedBy_eq hfamily hhelper hcommon
  rw [assetPaths, mem_firstOccurrences] at h
  obtain ⟨s, hs, h⟩ := List.mem_flatMap.1 h
  obtain ⟨f, hf, rfl⟩ := List.mem_map.1 h
  obtain ⟨hf, hext⟩ := List.mem_filter.1 hf
  rw [assetDirectories, mem_firstOccurrences, hserved, List.flatMap_singleton] at hs
  rw [assetExtensions, hserved, List.flatMap_singleton] at hext
  rw [hbundles] at hf
  refine ⟨s, hs, f, ?_, hext, rfl⟩
  simpa using hf

/-! ## Names and paths -/

/-- A character that ends no quoted argument. -/
def isUnquoted (c : Char) : Bool := !isQuote c

/-- A path that is shown ends no quoted argument. -/
theorem isQuote_relative {file : List Char} (h : f.ShownAs isUnquoted dirs file) {c : Char}
    (hc : c ∈ f.relative) : isQuote c = false := by
  rw [h.relative_eq] at hc
  obtain ⟨given, hgiven, rfl⟩ := List.mem_map.1 hc
  split
  · rfl
  · rcases h.allowed_of_mem hgiven with rfl | hallowed
    · rfl
    · rwa [isUnquoted, Bool.not_eq_true'] at hallowed

/-- The path that is shown of a file keeps the extension. -/
theorem exists_relative_eq (h : f.ShownAs isUnquoted dirs (stem ++ '.' :: ext))
    (hext : '\\' ∉ ext) : ∃ x, f.relative = x ++ '.' :: ext := by
  refine ⟨(dirs.flatMap (· ++ ['/']) ++ stem).map fun c => if c = '\\' then '/' else c, ?_⟩
  rw [h.relative_eq, ← List.append_assoc, List.map_append, List.map_cons,
    map_shown_eq_self hext]
  rfl

/-- The name of a bundle is what stands in front of the extension in its file's name, or all of that
name if it is only an extension. -/
theorem assetName_of_bundle (hbundle : loadsBundles helper = true) (x : List Char)
    (hdot : '.' ∉ ext) (hslash : '/' ∉ ext) :
    assetName helper (x ++ '.' :: ext) =
      if (x.splitOn '/').getLastD [] = [] then '.' :: ext else (x.splitOn '/').getLastD [] := by
  have hback : '/' ∉ '.' :: ext := by
    simpa using hslash
  have hfile : ((x ++ '.' :: ext).splitOn '/').getLastD [] =
      (x.splitOn '/').getLastD [] ++ '.' :: ext := getLastD_splitOn_append x hback
  simp only [assetName, if_pos hbundle, hfile, cutAtLast_append _ hdot, List.isEmpty_iff]
  split
  · next hnil => rw [hnil, List.nil_append]
  · rfl

/-- The name of a bundle is not empty, has no slash, and consists of characters of the path. -/
theorem assetName_fits (hbundle : loadsBundles helper = true) (x : List Char) (hdot : '.' ∉ ext)
    (hslash : '/' ∉ ext) :
    assetName helper (x ++ '.' :: ext) ≠ [] ∧ '/' ∉ assetName helper (x ++ '.' :: ext) ∧
      assetName helper (x ++ '.' :: ext) ⊆ x ++ '.' :: ext := by
  rw [assetName_of_bundle hbundle x hdot hslash]
  split
  · refine ⟨List.cons_ne_nil _ _, ?_, List.subset_append_right x _⟩
    simpa using hslash
  · next hne =>
    exact ⟨hne, notMem_getLastD_splitOn '/' x,
      fun c hc => List.mem_append_left _ ((suffix_getLastD_splitOn '/' x).subset hc)⟩

/-- The texts of an asset that is offered. -/
theorem exists_shownAs_of_mem_assetPaths (hsound : d.tree.Sound)
    (hnames : ∀ dir, d.NamesSpell isUnquoted dir) (hfamily : family ∈ linkedFamilies)
    (hhelper : helper ∈ family.helpers) (hcommon : helper ≠ AssetFamily.commonHelper)
    (h : path ∈ assetPaths d root helper) :
    ∃ s ∈ family.directories, ∃ f ∈ d.filesUnder (root.child s) (decide (family = .image)),
      ∃ dirs stem ext, f.ShownAs isUnquoted dirs (stem ++ '.' :: ext) ∧ stem ≠ [] ∧ '.' ∉ ext ∧
        String.ofList ext ∈ family.extensions ∧ f.relative = path := by
  obtain ⟨s, hs, f, hf, hext, hpath⟩ := exists_of_mem_assetPaths hfamily hhelper hcommon h
  obtain ⟨dirs, file, hshown⟩ :=
    Directory.exists_shownAs hsound (hnames _) (Directory.mem_filesBelow_of_mem hf)
  obtain ⟨stem, ext, hne, hdot, rfl, hmem⟩ := exists_of_hasExtension hshown hext
  exact ⟨s, hs, f, hf, dirs, stem, ext, hshown, hne, hdot, hmem, hpath⟩

/-- The extensions of a family as texts. -/
theorem ext_fit (hfamily : family ∈ linkedFamilies) (hext : String.ofList ext ∈ family.extensions) :
    ext ≠ [] ∧ (∀ c ∈ ext, isExtensionChar c = true) ∧ '/' ∉ ext ∧ '\\' ∉ ext := by
  obtain ⟨hne, hall⟩ := extensions_fit hfamily hext
  rw [String.toList_ofList] at hne hall
  exact ⟨hne, fun c hc => (hall c hc).1, fun hc => (hall _ hc).2.1 rfl,
    fun hc => (hall _ hc).2.2 rfl⟩

/-! ## Images -/

/-- The path of an image is found. -/
theorem resolves_of_image (habs : root.isAbsolute = true)
    (hhelper : helper ∈ AssetFamily.image.helpers) {s : String}
    (hs : s ∈ AssetFamily.image.directories) (hf : f ∈ d.filesUnder (root.child s) true)
    (hshown : f.ShownAs isUnquoted dirs (stem ++ '.' :: ext))
    (hext : String.ofList ext ∈ AssetFamily.image.extensions) :
    Resolves d root helper f.relative := by
  have hfamily : AssetFamily.image ∈ linkedFamilies := by decide
  obtain ⟨hne, hchars, -, hbackslash⟩ := ext_fit hfamily hext
  obtain ⟨x, hx⟩ := exists_relative_eq hshown hbackslash
  have hends : endsWithExtension f.relative = true := by
    rw [hx]
    exact endsWithExtension_append x hne hchars
  have hnil : f.relative ≠ [] := by
    rw [hx]
    exact List.append_ne_nil_of_right_ne_nil x (List.cons_ne_nil _ _)
  rw [resolves_iff habs hfamily hhelper hnil fun c hc => isQuote_relative hshown hc]
  refine ⟨s, hs, isSome_assetIn?_iff.2 ⟨Directory.isDirectory_of_mem_filesBelow
    (Directory.mem_filesBelow_of_mem hf), ?_⟩⟩
  rw [if_pos hends]
  exact ⟨f, hf, mem_pathEnds_self f.relative⟩

/-! ## Bundles -/

/-- A name with an extension is one that a file can have. -/
theorem isName_append_extension (hne : name ≠ []) (hname : '/' ∉ name) (hext : ext ≠ [])
    (hslash : '/' ∉ ext) : IsName (Utf8.encode (String.ofList (name ++ '.' :: ext))) := by
  have hoctets : Utf8.encode (String.ofList (name ++ '.' :: ext)) =
      Utf8.encode (String.ofList name) ++ 46 :: Utf8.encode (String.ofList ext) := by
    simp only [Utf8.encode_ofList, List.flatMap_append]
    rfl
  have hpos {s : List Char} (hs : s ≠ []) : 0 < (Utf8.encode (String.ofList s)).length :=
    List.length_pos_iff.2 (Utf8.encode_ne_nil (by simpa using hs))
  have hlength : 3 ≤ (Utf8.encode (String.ofList (name ++ '.' :: ext))).length := by
    have hfront := hpos hne
    have hback := hpos hext
    rw [hoctets, List.length_append, List.length_cons]
    omega
  have hnone : '/' ∉ name ++ '.' :: ext := by
    rw [List.mem_append, List.mem_cons]
    rintro (h | h | h)
    · exact hname h
    · cases h
    · exact hslash h
  exact isName_of_length hlength (Utf8.notMem_encode (by decide) hnone)

/-- What it takes that the name of a bundle is found. -/
theorem resolves_iff_of_bundle (habs : root.isAbsolute = true) (hfamily : family ∈ linkedFamilies)
    (himage : family ≠ .image) (hhelper : helper ∈ family.helpers) (hne : name ≠ [])
    (hquote : ∀ c ∈ name, isQuote c = false) (hslash : '/' ∉ name) :
    Resolves d root helper name ↔
      if endsWithExtension name = true then
        ∃ s ∈ family.directories, ∃ f ∈ d.filesUnder (root.child s) true,
          name ∈ pathEnds f.relative
      else ∃ s ∈ family.directories, ∃ full ∈ withExtensions family name,
        d.isFile ((root.child s).child (String.ofList full)) = true := by
  rw [resolves_iff habs hfamily hhelper hne hquote]
  simp only [isSome_assetIn?_iff, if_neg himage]
  split
  · constructor
    · rintro ⟨s, hs, -, hfound⟩
      exact ⟨s, hs, hfound⟩
    · rintro ⟨s, hs, f, hf, hmem⟩
      exact ⟨s, hs, Directory.isDirectory_of_mem_filesBelow (Directory.mem_filesBelow_of_mem hf),
        f, hf, hmem⟩
  · constructor
    · rintro ⟨s, hs, -, hfound⟩
      exact ⟨s, hs, hfound⟩
    · rintro ⟨s, hs, full, hfull, hfile⟩
      obtain ⟨e, he, rfl⟩ := List.mem_map.1 hfull
      obtain ⟨hnil, hall⟩ := extensions_fit hfamily he
      have hn := isName_append_extension hne hslash hnil fun hc => (hall _ hc).2.1 rfl
      exact ⟨s, hs, Directory.isDirectory_of_isFile (takesName_directory hfamily hs root) hn hfile,
        _, hfull, hfile⟩

/-- Where the path that is shown of a bundle has no slash, it is the name of the file, and the name
of the bundle is the rest of it without the extension. -/
theorem assetName_of_notMem {s : String} (hbundle : loadsBundles helper = true)
    (hf : f ∈ d.filesUnder (root.child s) false)
    (hshown : f.ShownAs isUnquoted dirs (stem ++ '.' :: ext)) (hne : stem ≠ []) (hdot : '.' ∉ ext)
    (hpath : '/' ∉ f.relative) :
    assetName helper f.relative = stem ∧
      f.names = [Utf8.encode (String.ofList (stem ++ '.' :: ext))] := by
  have hlength : f.names.length = 1 := by
    obtain ⟨-, hdepth⟩ := Directory.mem_of_mem_filesUnder hf
    exact hdepth.resolve_left Bool.false_ne_true
  have hdirs : dirs = [] := by
    rw [← hshown.names_eq, Utf8.encodeAll, List.length_map, List.length_append,
      List.length_singleton] at hlength
    exact List.length_eq_zero_iff.1 (by omega)
  subst hdirs
  have hrelative : f.relative = stem ++ '.' :: ext := by
    rw [hshown.relative_eq] at hpath ⊢
    rw [List.flatMap_nil, List.nil_append] at hpath ⊢
    exact map_shown_eq_self fun hc => hpath (List.mem_map.2 ⟨_, hc, rfl⟩)
  rw [hrelative] at hpath ⊢
  rw [List.mem_append, List.mem_cons, not_or, not_or] at hpath
  refine ⟨?_, hshown.names_eq.symm⟩
  rw [assetName_of_bundle hbundle stem hdot hpath.2.2, getLastD_splitOn hpath.1, if_neg hne]

/-! ## Which of the offered names are found -/

/-- What makes the name of an asset one that is found: it is that of an image; or it looks like a
name with an extension and some path below the directories ends with it; or it does not, and the
path that is shown of the file has no slash, or some file in the directories has the name with an
extension of the family. -/
def Reachable (d : Directory) (root : Path) (family : AssetFamily) (path name : List Char) : Prop :=
  family = .image ∨
    (endsWithExtension name = true ∧ ∃ s ∈ family.directories,
      ∃ f ∈ d.filesUnder (root.child s) true, name ∈ pathEnds f.relative) ∨
    (endsWithExtension name = false ∧ ('/' ∉ path ∨ ∃ s ∈ family.directories,
      ∃ full ∈ withExtensions family name,
        d.isFile ((root.child s).child (String.ofList full)) = true))

theorem resolves_iff_of_mem_assetPaths (habs : root.isAbsolute = true) (hsound : d.tree.Sound)
    (hnames : ∀ dir, d.NamesSpell isUnquoted dir) (hfamily : family ∈ linkedFamilies)
    (hhelper : helper ∈ family.helpers) (hcommon : helper ≠ AssetFamily.commonHelper)
    (h : path ∈ assetPaths d root helper) :
    Resolves d root helper (assetName helper path) ↔
      Reachable d root family path (assetName helper path) := by
  obtain ⟨-, -, hbundles⟩ := servedBy_eq hfamily hhelper hcommon
  obtain ⟨s, hs, f, hf, dirs, stem, ext, hshown, hne, hdot, hext, rfl⟩ :=
    exists_shownAs_of_mem_assetPaths hsound hnames hfamily hhelper hcommon h
  by_cases himage : family = .image
  · subst himage
    have hname : assetName helper f.relative = f.relative := by
      simp [assetName, hbundles]
    rw [hname]
    exact iff_of_true (resolves_of_image habs hhelper hs hf hshown hext) (Or.inl rfl)
  · rw [decide_eq_false himage] at hf
    have hbundle : loadsBundles helper = true := by
      rw [hbundles, decide_eq_true himage]
    obtain ⟨-, -, hslash, hbackslash⟩ := ext_fit hfamily hext
    obtain ⟨x, hx⟩ := exists_relative_eq hshown hbackslash
    obtain ⟨hnil, hnone, hsubset⟩ := assetName_fits hbundle x hdot hslash
    rw [← hx] at hnil hnone hsubset
    have hquote : ∀ c ∈ assetName helper f.relative, isQuote c = false :=
      fun c hc => isQuote_relative hshown (hsubset hc)
    rw [resolves_iff_of_bundle habs hfamily himage hhelper hnil hquote hnone, Reachable]
    cases hends : endsWithExtension (assetName helper f.relative) with
    | true => simp [himage]
    | false =>
      -- a name without a slash leads back to the file that it was taken from
      have hback : '/' ∉ f.relative → ∃ s ∈ family.directories,
          ∃ full ∈ withExtensions family (assetName helper f.relative),
            d.isFile ((root.child s).child (String.ofList full)) = true := by
        intro hpath
        obtain ⟨hname, hfnames⟩ := assetName_of_notMem hbundle hf hshown hne hdot hpath
        have hbelow := Directory.mem_filesBelow_of_mem hf
        have hfile := Directory.isFile_of_mem_filesBelow hsound
          (takesName_directory hfamily hs root) hbelow
        rw [Directory.path_of_mem_filesBelow hbelow, hfnames] at hfile
        refine ⟨s, hs, stem ++ '.' :: ext, List.mem_map.2 ⟨String.ofList ext, hext, ?_⟩, hfile⟩
        rw [hname, String.toList_ofList]
      simp only [Bool.false_eq_true, if_false, himage, false_and, false_or, true_and]
      exact ⟨Or.inr, fun h => h.elim hback id⟩

/-- In a workspace with an absolute root, where the names of files are texts that end no quoted
argument, the name that completion inserts for an asset of a script, a style sheet or an image is
found if and only if it is reachable. -/
theorem resolves_of_assetItems (habs : root.isAbsolute = true) (hsound : d.tree.Sound)
    (hnames : ∀ dir, d.NamesSpell isUnquoted dir) (hfamily : family ∈ linkedFamilies)
    (hhelper : helper ∈ family.helpers) (hcommon : helper ≠ AssetFamily.commonHelper)
    (hi : i ∈ assetItems d root (openCall helper))
    (hname : i.insertion = some (.plain (String.ofList name))) :
    Resolves d root helper name ↔ Reachable d root family i.label.toList name := by
  obtain ⟨hmem, -, -⟩ := servedBy_eq hfamily hhelper hcommon
  rw [assetItems_openCall hmem] at hi
  obtain ⟨path, hpath, rfl⟩ := List.mem_map.1 hi
  have hinserted : assetName helper path = name := by
    have htext : String.ofList (assetName helper path) = String.ofList name := by
      simpa [assetItem] using hname
    rw [← String.toList_ofList (l := assetName helper path), htext, String.toList_ofList]
  have hlabel : (assetItem helper path).label.toList = path := String.toList_ofList
  rw [hlabel, ← hinserted]
  exact resolves_iff_of_mem_assetPaths habs hsound hnames hfamily hhelper hcommon hpath

/-- A workspace with one script. -/
def withScript (file : String) : Directory :=
  ⟨FileTree.empty.write (["p", "app", "assets", "javascripts", file].map Utf8.encode) [], []⟩

/-- The name of a bundle without a further dot is found. -/
theorem resolves_of_assetItems_application :
    Resolves (withScript "application.js") (.ofString "/p") "javascript_include_tag"
      "application".toList := by
  have hnames : ∀ file ∈ (withScript "application.js").tree.files, ∀ n ∈ file.1,
      ∃ s ∈ ["p", "app", "assets", "javascripts", "application.js"],
        s.toList.all isUnquoted = true ∧ Utf8.encode s = n := by decide
  have hspell (dir : Path) : (withScript "application.js").NamesSpell isUnquoted dir := by
    refine Directory.namesSpell_of_files (fun file hfile n hn => ?_) dir
    obtain ⟨s, -, hs, rfl⟩ := hnames file hfile n hn
    exact Utf8.spells_encode hs
  have hpaths : assetPaths (withScript "application.js") (.ofString "/p")
      "javascript_include_tag" = ["application.js".toList] := by decide +kernel
  have hitem : assetItem "javascript_include_tag" "application.js".toList ∈
      assetItems (withScript "application.js") (.ofString "/p")
        (openCall "javascript_include_tag") := by
    rw [assetItems_openCall (by decide), hpaths]
    exact List.mem_cons_self
  have hfamily : AssetFamily.javascript ∈ linkedFamilies := by decide
  refine (resolves_of_assetItems (by decide) (by decide) hspell hfamily (by decide) (by decide)
    hitem rfl).2 ?_
  exact Or.inr (Or.inr ⟨by decide, Or.inl (by decide)⟩)

/-- The name of a bundle with a further dot is offered and not found. -/
theorem not_resolves_minified :
    (withScript "application.min.js").tree.Sound ∧
      ∃ i ∈ assetItems (withScript "application.min.js") (.ofString "/p")
        (openCall "javascript_include_tag"),
        i.insertion = some (.plain "application.min") ∧
          ¬ Resolves (withScript "application.min.js") (.ofString "/p") "javascript_include_tag"
            "application.min".toList := by
  have hpaths : assetPaths (withScript "application.min.js") (.ofString "/p")
      "javascript_include_tag" = ["application.min.js".toList] := by decide +kernel
  have hfiles : assetFiles (withScript "application.min.js") (.ofString "/p")
      (closedCall "javascript_include_tag" "application.min".toList) = [] := by decide +kernel
  refine ⟨by decide, assetItem "javascript_include_tag" "application.min.js".toList, ?_, rfl, ?_⟩
  · rw [assetItems_openCall (by decide), hpaths]
    exact List.mem_cons_self
  · rw [Resolves, hfiles]
    exact fun h => h rfl

end HamlServer.Workspace
