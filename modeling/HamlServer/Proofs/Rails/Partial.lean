import HamlServer.Proofs.Files.Scan
import HamlServer.Rails.Partial

/-!
# The names of partials

A partial is rendered by its path without the underscore and the endings of its file.  So the name
tells the directories, and of the file all but which of two endings it has: a name that itself ends
in `.html` is that of a file with both endings only.

* `renderName?_eq_some_iff`: the files of a name, apart from their directories.
* `renderName?_append`: directories are a part of the name.
-/

namespace HamlServer.Rails

open Text

variable {file name rest stem : List Char}

/-! ## Endings -/

/-- The name that is left of a file behind its underscore and in front of `.haml`. -/
def bareName? (stem : List Char) : Option (List Char) :=
  let name := (dropEnd? ".html".toList stem).getD stem
  if name.isEmpty then none else some name

theorem bareName?_eq_some_iff :
    bareName? stem = some name ↔ name ≠ [] ∧
      (stem = name ++ ".html".toList ∨ stem = name ∧ dropEnd? ".html".toList name = none) := by
  unfold bareName?
  cases hd : dropEnd? ".html".toList stem with
  | some front =>
    have hstem : stem = front ++ ".html".toList := dropEnd?_eq_some_iff.1 hd
    simp only [Option.getD_some]
    constructor
    · intro h
      obtain ⟨hne, rfl⟩ : ¬ front.isEmpty = true ∧ front = name := by simpa using h
      exact ⟨fun hnil => hne (List.isEmpty_iff.2 hnil), Or.inl hstem⟩
    · rintro ⟨hne, h | ⟨rfl, hnone⟩⟩
      · obtain rfl : front = name := List.append_cancel_right (hstem.symm.trans h)
        rw [if_neg (mt List.isEmpty_iff.1 hne)]
      · rw [hd] at hnone
        cases hnone
  | none =>
    simp only [Option.getD_none]
    constructor
    · intro h
      obtain ⟨hne, rfl⟩ : ¬ stem.isEmpty = true ∧ stem = name := by simpa using h
      exact ⟨fun hnil => hne (List.isEmpty_iff.2 hnil), Or.inr ⟨rfl, hd⟩⟩
    · rintro ⟨hne, rfl | ⟨rfl, -⟩⟩
      · rw [dropEnd?_eq_some_iff.2 rfl] at hd
        cases hd
      · rw [if_neg (mt List.isEmpty_iff.1 hne)]

/-! ## Files -/

/-- A file in a directory by its name alone. -/
theorem renderName?_of_notMem (hfile : '/' ∉ file) :
    renderName? file = (dropStart? ['_'] file).bind fun rest =>
      (dropEnd? ".haml".toList rest).bind bareName? := by
  rw [renderName?, cutAtLast_eq_none hfile]
  rfl

/-- The files of a name, apart from their directories: one with both endings, and one with the last
of them only, unless the name would then end in `.html`. -/
theorem renderName?_eq_some_iff (hfile : '/' ∉ file) :
    renderName? file = some name ↔ name ≠ [] ∧
      (file = '_' :: name ++ ".html.haml".toList ∨
        file = '_' :: name ++ ".haml".toList ∧ dropEnd? ".html".toList name = none) := by
  have hboth : name ++ ".html".toList ++ ".haml".toList = name ++ ".html.haml".toList :=
    List.append_assoc name _ _
  rw [renderName?_of_notMem hfile, Option.bind_eq_some_iff]
  simp only [Option.bind_eq_some_iff, dropStart?_eq_some_iff, dropEnd?_eq_some_iff,
    bareName?_eq_some_iff]
  constructor
  · rintro ⟨rest, hfront, stem, rfl, hne, rfl | ⟨rfl, hnone⟩⟩
    · rw [hboth] at hfront
      exact ⟨hne, Or.inl hfront⟩
    · exact ⟨hne, Or.inr ⟨hfront, hnone⟩⟩
  · rintro ⟨hne, rfl | ⟨rfl, hnone⟩⟩
    · exact ⟨_, rfl, name ++ ".html".toList, hboth.symm, hne, Or.inl rfl⟩
    · exact ⟨_, rfl, name, rfl, hne, Or.inr ⟨rfl, hnone⟩⟩

/-- The characters of a file are those of its name, of the underscore and of the endings. -/
theorem mem_of_renderName? (hfile : '/' ∉ file) (h : renderName? file = some name) {c : Char}
    (hc : c ∈ file) : c ∈ name ∨ c ∈ "_.html.haml".toList := by
  obtain ⟨-, rfl | ⟨rfl, -⟩⟩ := (renderName?_eq_some_iff hfile).1 h
  · rcases List.mem_cons.1 hc with rfl | hc
    · exact Or.inr (by decide)
    · rcases List.mem_append.1 hc with hc | hc
      · exact Or.inl hc
      · exact Or.inr (List.mem_cons_of_mem '_' hc)
  · rcases List.mem_cons.1 hc with rfl | hc
    · exact Or.inr (by decide)
    · rcases List.mem_append.1 hc with hc | hc
      · exact Or.inl hc
      · exact Or.inr (List.mem_append_right "_.html".toList hc)

theorem subset_of_renderName? (hfile : '/' ∉ file) (h : renderName? file = some name) :
    name ⊆ file := by
  intro c hc
  obtain ⟨-, rfl | ⟨rfl, -⟩⟩ := (renderName?_eq_some_iff hfile).1 h
  · exact List.mem_cons_of_mem '_' (List.mem_append_left _ hc)
  · exact List.mem_cons_of_mem '_' (List.mem_append_left _ hc)

/-- What begins with an underscore and holds no slash is a name that a file can have. -/
theorem isName_underscore {r : List Char} (h : '/' ∉ r) :
    IsName (Utf8.encode (String.ofList ('_' :: r))) := by
  have hchar : '/' ∉ '_' :: r := List.not_mem_cons_of_ne_of_not_mem (by decide) h
  have hslash : slash ∉ Utf8.encode (String.ofList ('_' :: r)) :=
    Utf8.notMem_encode (by decide) hchar
  have hoctets : Utf8.encode (String.ofList ('_' :: r)) =
      95 :: r.flatMap String.utf8EncodeChar := by
    rw [Utf8.encode_ofList]
    rfl
  rw [hoctets] at hslash ⊢
  exact ⟨List.cons_ne_nil _ _, by simp, by simp, hslash⟩

/-- The file of a partial has a name that a file can have. -/
theorem isName_of_renderName? (hfile : '/' ∉ file) (h : renderName? file = some name) :
    IsName (Utf8.encode (String.ofList file)) := by
  obtain ⟨r, rfl⟩ : ∃ r, file = '_' :: r := by
    obtain ⟨-, rfl | ⟨rfl, -⟩⟩ := (renderName?_eq_some_iff hfile).1 h
    · exact ⟨_, rfl⟩
    · exact ⟨_, rfl⟩
  exact isName_underscore fun hr => hfile (List.mem_cons_of_mem '_' hr)

/-- Directories are a part of the name. -/
theorem renderName?_append (folder : List Char) (hfile : '/' ∉ file) :
    renderName? (folder ++ '/' :: file) = (renderName? file).map (folder ++ '/' :: ·) := by
  rw [renderName?_of_notMem hfile]
  simp only [renderName?, cutAtLast_append folder hfile, Option.bind_eq_bind]
  cases dropStart? ['_'] file with
  | none => rfl
  | some rest =>
    simp only [Option.bind_some]
    cases dropEnd? ".haml".toList rest with
    | none => rfl
    | some stem =>
      simp only [Option.bind_some, bareName?]
      split
      · rfl
      · rfl

end HamlServer.Rails
