import HamlServer.Locate.AssetFile
import HamlServer.Proofs.Files.Scan
import HamlServer.Proofs.Template.Call

/-!
# The files of an asset

* `isSome_assetIn?_iff`: what it takes that a directory has a file for a name.
* `assetReference?_closedCall`: the asset that a call names.
* `endsWithExtension_append`: a name behind which an extension stands.
-/

namespace HamlServer.Locate

open Text Template Rails

variable {d : Directory} {family : AssetFamily} {root dir file : Path} {helper : String}
  {name ext : List Char} {accepts : List Char → Bool}

/-! ## Names -/

theorem mem_pathEnds_self (path : List Char) : path ∈ pathEnds path := by
  unfold pathEnds
  exact List.mem_cons_self

theorem endsWithExtension_append (front : List Char) (hne : ext ≠ [])
    (hall : ∀ c ∈ ext, isExtensionChar c = true) :
    endsWithExtension (front ++ '.' :: ext) = true := by
  have hreverse : (front ++ '.' :: ext).reverse = ext.reverse ++ '.' :: front.reverse := by simp
  have hback : (ext.reverse ++ '.' :: front.reverse).takeWhile isExtensionChar = ext.reverse := by
    rw [List.takeWhile_append_of_pos fun c hc => hall c (List.mem_reverse.1 hc)]
    simp [isExtensionChar]
  have hfull : ext.reverse.isEmpty = false := by
    rw [List.isEmpty_eq_false_iff, ne_eq, List.reverse_eq_nil_iff]
    exact hne
  simp only [endsWithExtension, hreverse, hback, hfull, List.drop_left, List.head?_cons]
  rfl

/-- The extensions of assets are texts that end a name. -/
theorem extensions_fit (hfamily : family ∈ linkedFamilies) {e : String}
    (he : e ∈ family.extensions) :
    e.toList ≠ [] ∧ ∀ c ∈ e.toList, isExtensionChar c = true ∧ c ≠ '/' ∧ c ≠ '\\' := by
  have hall : ∀ family ∈ linkedFamilies, ∀ e ∈ family.extensions,
      e.toList ≠ [] ∧
        e.toList.all (fun c => isExtensionChar c && c != '/' && c != '\\') = true := by
    decide
  obtain ⟨hne, hchars⟩ := hall family hfamily e he
  refine ⟨hne, fun c hc => ?_⟩
  have hfit := List.all_eq_true.1 hchars c hc
  rw [Bool.and_eq_true, Bool.and_eq_true, bne_iff_ne, bne_iff_ne] at hfit
  exact ⟨hfit.1.1, hfit.1.2, hfit.2⟩

/-! ## Directories -/

theorem takesName_directory (hfamily : family ∈ linkedFamilies) {s : String}
    (hs : s ∈ family.directories) (root : Path) : (root.child s).TakesName := by
  have hall : ∀ family ∈ linkedFamilies, ∀ s ∈ family.directories,
      (Path.ofString s).TakesName := by decide
  exact (hall family hfamily s hs).join root

theorem isSome_firstFile?_iff :
    (firstFile? d dir accepts).isSome = true ↔
      ∃ f ∈ d.filesUnder dir true, ∃ back ∈ pathEnds f.relative, accepts back = true := by
  rw [firstFile?, Option.isSome_map, List.find?_isSome]
  simp only [List.any_eq_true]

/-- What it takes that a directory has a file for a name: a name with an extension, or with one to
be added in the case of an image, is the end of a path below it; any other is the front of a file in
it. -/
theorem isSome_assetIn?_iff :
    (assetIn? d family name dir).isSome = true ↔ d.isDirectory dir = true ∧
      if endsWithExtension name = true then
        ∃ f ∈ d.filesUnder dir true, name ∈ pathEnds f.relative
      else if family = .image then
        ∃ f ∈ d.filesUnder dir true, ∃ back ∈ pathEnds f.relative,
          back ∈ withExtensions family name
      else ∃ full ∈ withExtensions family name,
        d.isFile (dir.child (String.ofList full)) = true := by
  unfold assetIn?
  cases d.isDirectory dir with
  | false => simp
  | true =>
    rw [Bool.not_true, if_neg Bool.false_ne_true]
    refine Iff.trans ?_ (and_iff_right rfl).symm
    split
    · simp only [isSome_firstFile?_iff, beq_iff_eq, exists_eq_right]
    · split
      · simp only [isSome_firstFile?_iff, List.contains_iff_mem]
      · rw [List.find?_isSome]
        simp only [List.mem_map, exists_exists_and_eq_and]

/-- The file of an asset below an absolute directory has an absolute path. -/
theorem isAbsolute_of_assetIn? (habs : dir.isAbsolute = true)
    (h : assetIn? d family name dir = some file) : file.isAbsolute = true := by
  have hfirst {accepts} (h : firstFile? d dir accepts = some file) : file.isAbsolute = true := by
    obtain ⟨f, hf, rfl⟩ := Option.map_eq_some_iff.1 h
    rw [Directory.path_of_mem_filesBelow
      (Directory.mem_filesBelow_of_mem (List.mem_of_find?_eq_some hf))]
    exact Path.isAbsolute_below habs f.names
  unfold assetIn? at h
  split at h
  · cases h
  · split at h
    · exact hfirst h
    · split at h
      · exact hfirst h
      · obtain ⟨full, -, rfl⟩ := List.mem_map.1 (List.mem_of_find?_eq_some h)
        exact Path.isAbsolute_join habs _

/-! ## Calls -/

theorem toldApart_linked : ToldApart (linkedFamilies.flatMap (·.helpers)) :=
  ⟨by decide, by decide, by decide⟩

/-- The asset that a call names. -/
theorem assetReference?_closedCall (hfamily : family ∈ linkedFamilies)
    (hhelper : helper ∈ family.helpers) (hne : name ≠ [])
    (hquote : ∀ c ∈ name, isQuote c = false) :
    assetReference? (closedCall helper name) = some (family, name) := by
  have hmem : helper ∈ linkedFamilies.flatMap (·.helpers) :=
    List.mem_flatMap.2 ⟨family, hfamily, hhelper⟩
  have hserved : ∀ family ∈ linkedFamilies, ∀ helper ∈ family.helpers,
      linkedFamilies.find? (fun f => f.helpers.contains helper) = some family := by decide
  have hstart : StartsInk (helper.toList ++ ' ' :: '\'' :: (name ++ ['\''])) :=
    (toldApart_linked.startsInk hmem).append _
  rw [assetReference?, closedCall_eq, findMatch_outputAt? hstart, Option.orElse_some]
  rw [assetReferenceAt?, callAt?_append toldApart_linked hmem]
  simp only [Option.bind_eq_bind, Option.bind_some, closedText?_quoted hne hquote,
    hserved family hfamily helper hhelper]
  rfl

end HamlServer.Locate
