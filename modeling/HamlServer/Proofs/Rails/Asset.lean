import HamlServer.Proofs.Files.Scan
import HamlServer.Rails.Asset
import Mathlib.Data.List.Induction
import Mathlib.Data.List.TakeWhile

/-!
# The extensions of asset files

An extension is what stands behind the last dot of a file's name, so long as something stands in
front of that dot.  It is read off the octets of the name; since the octet of a dot stands for no
other character, that is where the last dot of the text is.

* `mem_firstOccurrences`: leaving out what came before leaves out nothing.
* `extension?_encode`: the extension of a name by its text.
* `exists_of_hasExtension`: the text of a file with one of some extensions.
-/

namespace HamlServer.Rails

open Text

variable {α : Type} [DecidableEq α] {a : α} {as : List α} {f : Scanned} {extensions : List String}
  {allowed : Char → Bool} {dirs : List (List Char)} {file : List Char}

/-! ## First occurrences -/

theorem firstOccurrences_concat (as : List α) (a : α) :
    firstOccurrences (as ++ [a]) =
      if a ∈ firstOccurrences as then firstOccurrences as else firstOccurrences as ++ [a] := by
  rw [firstOccurrences, firstOccurrences, List.foldl_append, List.foldl_cons, List.foldl_nil]

theorem mem_firstOccurrences : a ∈ firstOccurrences as ↔ a ∈ as := by
  induction as using List.reverseRecOn with
  | nil => rfl
  | append_singleton as last ih =>
    rw [firstOccurrences_concat, List.mem_append, List.mem_singleton]
    split
    · next hlast =>
      constructor
      · exact fun h => Or.inl (ih.1 h)
      · rintro (h | rfl)
        · exact ih.2 h
        · exact hlast
    · rw [List.mem_append, List.mem_singleton, ih]

/-! ## Extensions -/

/-- The extension of a name is that of its text: what stands behind the last dot, unless nothing
stands in front of it. -/
theorem extension?_encode (s : List Char) :
    extension? (Utf8.encode (String.ofList s)) =
      (cutAtLast '.' s).bind fun (stem, ext) =>
        if stem.isEmpty then none else some (Utf8.encode (String.ofList ext)) := by
  rcases cutAtLast_cases '.' s with ⟨hs, hcut⟩ | ⟨stem, ext, rfl, hext, hcut⟩
  · have hall : (Utf8.encode (String.ofList s)).reverse.takeWhile (· != 46) =
        (Utf8.encode (String.ofList s)).reverse := by
      rw [List.takeWhile_eq_self_iff]
      intro b hb
      rw [bne_iff_ne]
      rintro rfl
      exact Utf8.notMem_encode (by decide) hs (List.mem_reverse.1 hb)
    rw [hcut, extension?, hall, List.length_reverse, if_pos (Nat.le_succ _)]
    rfl
  · have hoctets : Utf8.encode (String.ofList (stem ++ '.' :: ext)) =
        Utf8.encode (String.ofList stem) ++ 46 :: Utf8.encode (String.ofList ext) := by
      simp only [Utf8.encode_ofList, List.flatMap_append]
      rfl
    have hback : (Utf8.encode (String.ofList (stem ++ '.' :: ext))).reverse.takeWhile (· != 46) =
        (Utf8.encode (String.ofList ext)).reverse := by
      rw [hoctets, List.reverse_append, List.reverse_cons, List.append_assoc,
        List.takeWhile_append_of_pos]
      · simp
      · intro b hb
        rw [bne_iff_ne]
        rintro rfl
        exact Utf8.notMem_encode (by decide) hext (List.mem_reverse.1 hb)
    rw [hcut, extension?, hback, hoctets]
    simp only [List.length_append, List.length_cons, List.length_reverse, List.reverse_reverse,
      Option.bind_some]
    cases stem with
    | nil =>
      rw [if_pos (by
        rw [show Utf8.encode (String.ofList []) = [] from rfl]
        simp)]
      rfl
    | cons c r =>
      have hpos : 0 < (Utf8.encode (String.ofList (c :: r))).length := by
        rw [List.length_pos_iff]
        exact Utf8.encode_ne_nil (by simp)
      rw [if_neg (by omega)]
      rfl

/-- The text of a file with one of some extensions. -/
theorem exists_of_hasExtension (h : f.ShownAs allowed dirs file)
    (hext : hasExtension extensions f = true) :
    ∃ stem ext, stem ≠ [] ∧ '.' ∉ ext ∧ file = stem ++ '.' :: ext ∧
      String.ofList ext ∈ extensions := by
  rw [hasExtension, h.fileName_eq, extension?_encode] at hext
  rcases cutAtLast_cases '.' file with ⟨-, hcut⟩ | ⟨stem, ext, hfile, hdot, hcut⟩
  · rw [hcut] at hext
    cases hext
  · rw [hcut, Option.bind_some] at hext
    cases stem with
    | nil => cases hext
    | cons c r =>
      refine ⟨c :: r, ext, List.cons_ne_nil c r, hdot, hfile, ?_⟩
      simpa using hext

end HamlServer.Rails
