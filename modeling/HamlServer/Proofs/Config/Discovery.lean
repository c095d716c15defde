import HamlServer.Proofs.Config.LinterEntry

/-!
# The configuration of the linters that a project has

The file of a project is the first that stands at one of its places.  What it says about a linter is
laid over the built-in settings, key by key; a file that cannot be read says nothing, but no other
file is looked for.

* `lookup_ofEntries`: a linter has its built-in settings with its entry laid over them.
* `overlaidBy_of_ofYaml?`: what a text says about a linter or an option holds, and all else is
  built in.
* `discover_firstFile`: where the file comes from, and what it does to the configuration.
-/

namespace HamlServer

open Yaml

variable {d : Document} {c : LintConfig} {entries : List (String × LinterEntry)} {name : String}

/-! ## Overlays -/

/-- An option that a file gives holds, and the others keep their values. -/
theorem Linter.lookup_overlay_options {e : LinterEntry} (h : (e.options.map (·.1)).Nodup)
    (l : Linter) (key : String) :
    (l.overlay e).options.lookup key = (e.options.lookup key).or (l.options.lookup key) :=
  lookup_foldl_setKey h key l.options

namespace LintConfig

theorem lookup_overlayEntry (linters : List (String × Linter)) (name' : String) (e : LinterEntry) :
    (overlayEntry linters name' e).lookup name =
      if name = name' then some (((linters.lookup name').getD { enabled := false }).overlay e)
      else linters.lookup name :=
  lookup_setKey name' name _ linters

/-- A linter is touched by its own entry alone. -/
theorem lookup_foldl_overlayEntry (h : (entries.map (·.1)).Nodup) (name : String)
    (linters : List (String × Linter)) :
    (entries.foldl (fun acc (k, e) => overlayEntry acc k e) linters).lookup name =
      match entries.lookup name with
      | none => linters.lookup name
      | some e => some (((linters.lookup name).getD { enabled := false }).overlay e) := by
  induction entries generalizing linters with
  | nil => rfl
  | cons entry entries ih =>
    obtain ⟨k, e⟩ := entry
    rw [List.map_cons, List.nodup_cons] at h
    rw [List.foldl_cons, ih h.2, lookup_cons_eq, lookup_overlayEntry]
    by_cases hk : name = k
    · subst hk
      rw [lookup_eq_none_of_notMem h.1, if_pos rfl, if_pos rfl]
    · rw [if_neg hk, if_neg hk]

theorem lookup_ofEntries (h : (entries.map (·.1)).Nodup) (name : String) :
    (ofEntries entries).linter? name =
      match entries.lookup name with
      | none => default.linter? name
      | some e => some (((default.linter? name).getD { enabled := false }).overlay e) :=
  lookup_foldl_overlayEntry h name builtin

theorem isEnabled_congr {c c' : LintConfig} (h : c.linter? name = c'.linter? name) :
    c.isEnabled name = c'.isEnabled name := by
  unfold isEnabled
  rw [h]

theorem option?_congr {c c' : LintConfig} (h : c.linter? name = c'.linter? name) (key : String) :
    c.option? name key = c'.option? name key := by
  unfold option?
  rw [h]

variable {e : LinterEntry}

/-- A linter is as enabled as its entry says, and otherwise as it is built in; one that is not built
in is disabled. -/
theorem isEnabled_of_overlay
    (h : c.linter? name = some (((default.linter? name).getD { enabled := false }).overlay e)) :
    c.isEnabled name = e.enabled.getD (default.isEnabled name) := by
  unfold isEnabled
  rw [h, Option.any_some]
  show e.enabled.getD _ = _
  cases default.linter? name with
  | none => rfl
  | some l => rfl

theorem option?_of_overlay (hdistinct : (e.options.map (·.1)).Nodup)
    (h : c.linter? name = some (((default.linter? name).getD { enabled := false }).overlay e))
    (key : String) :
    c.option? name key = (e.options.lookup key).or (default.option? name key) := by
  unfold option?
  rw [h, Option.bind_some, Linter.lookup_overlay_options hdistinct]
  cases default.linter? name with
  | none => rfl
  | some l => rfl

/-! ## Documents -/

/-- The settings of a document laid over the built-in ones.  Under the name of a linter, `enabled`
says whether it is enabled, where null says nothing, and every other key is an option. -/
structure OverlaidBy (d : Document) (c : LintConfig) : Prop where
  untouched : ∀ name, d.at? ["linters", name] = none → c.linter? name = default.linter? name
  enabled : ∀ name, match d.at? ["linters", name, "enabled"] with
    | none => c.isEnabled name = default.isEnabled name
    | some n => ∃ t, HasTruth d n t ∧ c.isEnabled name = t.getD (default.isEnabled name)
  option : ∀ name key, key ≠ "enabled" →
    Sets (d.at? ["linters", name, key]) (d.HasValue (maxNesting - 3)) (default.option? name key)
      (c.option? name key)
  reserved : ∀ name, c.option? name "enabled" = default.option? name "enabled"

section

variable (h : DescribesAll d (maxNesting - 3) (fun name => d.at? ["linters", name]) entries)
include h

theorem linter?_of_unmentioned (hname : d.at? ["linters", name] = none) :
    (ofEntries entries).linter? name = default.linter? name := by
  rw [lookup_ofEntries h.1, h.lookup_eq_none hname]

theorem linter?_of_mentioned {n : Node} (hname : d.at? ["linters", name] = some n) :
    ∃ e, Describes d (maxNesting - 3) n e ∧ (ofEntries entries).linter? name =
      some (((default.linter? name).getD { enabled := false }).overlay e) := by
  obtain ⟨e, he, hlookup⟩ := h.exists_describes hname
  refine ⟨e, he, ?_⟩
  rw [lookup_ofEntries h.1, hlookup]

theorem overlaidBy_ofEntries : OverlaidBy d (ofEntries entries) := by
  have hat (name key : String) : d.at? ["linters", name, key] =
      (d.at? ["linters", name]).bind (d.member? key) := d.at?_concat ["linters", name] key
  constructor
  case untouched =>
    intro name hname
    exact linter?_of_unmentioned h hname
  case enabled =>
    intro name
    rw [hat]
    cases hname : d.at? ["linters", name] with
    | none => exact isEnabled_congr (linter?_of_unmentioned h hname)
    | some n =>
      obtain ⟨e, he, hlinter⟩ := linter?_of_mentioned h hname
      have henabled : Sets (d.member? "enabled" n) (HasTruth d) (some none) (some e.enabled) :=
        he.enabled
      rw [Option.bind_some, isEnabled_of_overlay hlinter]
      cases hmember : d.member? "enabled" n with
      | none =>
        rw [hmember] at henabled
        have hnothing : e.enabled = none := Option.some.inj henabled
        show e.enabled.getD _ = _
        rw [hnothing, Option.getD_none]
      | some v =>
        rw [hmember] at henabled
        obtain ⟨t, ht, het⟩ := henabled
        refine ⟨t, ht, ?_⟩
        rw [Option.some.inj het]
  case option =>
    intro name key hkey
    rw [hat]
    cases hname : d.at? ["linters", name] with
    | none => exact option?_congr (linter?_of_unmentioned h hname) key
    | some n =>
      obtain ⟨e, he, hlinter⟩ := linter?_of_mentioned h hname
      rw [Option.bind_some, option?_of_overlay (he.distinct List.nodup_nil) hlinter]
      exact (he.option key hkey).or _
  case reserved =>
    intro name
    cases hname : d.at? ["linters", name] with
    | none => exact option?_congr (linter?_of_unmentioned h hname) "enabled"
    | some n =>
      obtain ⟨e, he, hlinter⟩ := linter?_of_mentioned h hname
      have hreserved : e.options.lookup "enabled" = none := he.reserved
      rw [option?_of_overlay (he.distinct List.nodup_nil) hlinter, hreserved, Option.none_or]

end

theorem overlaidBy_of_ofYaml? {text : String} (h : ofYaml? text = some c) :
    ∃ d, Document.parse? text = some d ∧ OverlaidBy d c := by
  unfold ofYaml? at h
  obtain ⟨d, hd, h⟩ := Option.bind_eq_some_iff.1 h
  obtain ⟨⟨entries, left⟩, hrun, h⟩ := Option.bind_eq_some_iff.1 h
  obtain rfl := Option.some.inj h
  exact ⟨d, hd, overlaidBy_ofEntries (describesAll_of_readDocument hrun)⟩

/-! ## Places -/

/-- The places of the file, the one that is looked at first in front. -/
def places : Option Path → Path → List Path
  | some root, cwd => [
      root.child ".haml-lint.yml", root.child "config/haml-lint.yml",
      cwd.child ".haml-lint.yml", cwd.child "config/haml-lint.yml"]
  | none, cwd => [cwd.child ".haml-lint.yml", cwd.child "config/haml-lint.yml"]

theorem candidates_eq (root : Option Path) (cwd : Path) :
    candidates root cwd = places root cwd := by
  cases root with
  | none => rfl
  | some root => rfl

/-- A path leads to a file, and none of those in front of it does. -/
structure FirstFile (dir : Directory) (paths : List Path) (path : Path) : Prop where
  isFile : dir.isFile path
  first : ∃ front behind, paths = front ++ path :: behind ∧ ∀ p ∈ front, ¬ dir.isFile p

theorem firstFile_of_find? {dir : Directory} {paths : List Path} {path : Path}
    (h : paths.find? dir.isFile = some path) : FirstFile dir paths path := by
  obtain ⟨hfile, front, behind, hpaths, hfront⟩ := List.find?_eq_some_iff_append.1 h
  refine ⟨hfile, front, behind, hpaths, ?_⟩
  intro p hp
  have hnot := hfront p hp
  rw [Bool.not_eq_true'] at hnot
  rw [hnot]
  exact Bool.false_ne_true

/-! ## The configuration -/

/-- A file that cannot be read, or whose text is malformed, gives no configuration. -/
theorem load_of_bind_eq_none {dir : Directory} {path : Path}
    (h : (dir.readText? path).bind ofYaml? = none) : ∃ e, load dir path = .error e := by
  unfold load
  cases htext : dir.readText? path with
  | none => exact ⟨.unreadable, rfl⟩
  | some text =>
    rw [htext, Option.bind_some] at h
    dsimp only
    rw [h]
    exact ⟨.malformed, rfl⟩

theorem load_of_bind_eq_some {dir : Directory} {path : Path}
    (h : (dir.readText? path).bind ofYaml? = some c) :
    load dir path = .ok { c with path := some path } := by
  unfold load
  obtain ⟨text, htext, hc⟩ := Option.bind_eq_some_iff.1 h
  rw [htext]
  dsimp only
  rw [hc]

theorem discover_of_find? {dir : Directory} {root : Option Path} {cwd path : Path}
    (h : (candidates root cwd).find? dir.isFile = some path) :
    discover dir root cwd =
      { ((dir.readText? path).bind ofYaml?).getD default with path := some path } := by
  unfold discover
  rw [h]
  dsimp only
  cases hc : (dir.readText? path).bind ofYaml? with
  | none =>
    obtain ⟨e, he⟩ := load_of_bind_eq_none hc
    rw [he]
    rfl
  | some c =>
    rw [load_of_bind_eq_some hc]
    rfl

/-- The configuration comes from the first file, whatever it holds; if it cannot be read, from
nowhere else.  Without a file everything is built in. -/
theorem discover_firstFile (dir : Directory) (root : Option Path) (cwd : Path) :
    ((∀ p ∈ places root cwd, ¬ dir.isFile p) ∧ discover dir root cwd = default) ∨
      ∃ path, FirstFile dir (places root cwd) path ∧ (discover dir root cwd).path = some path ∧
        match (dir.readText? path).bind ofYaml? with
        | none => discover dir root cwd = { default with path := some path }
        | some _ => ∃ text d, dir.readText? path = some text ∧ Document.parse? text = some d ∧
            OverlaidBy d (discover dir root cwd) := by
  rw [← candidates_eq]
  cases hfind : (candidates root cwd).find? dir.isFile with
  | none =>
    left
    refine ⟨List.find?_eq_none.1 hfind, ?_⟩
    unfold discover
    rw [hfind]
  | some path =>
    right
    refine ⟨path, firstFile_of_find? hfind, ?_⟩
    rw [discover_of_find? hfind]
    refine ⟨rfl, ?_⟩
    cases hc : (dir.readText? path).bind ofYaml? with
    | none => rfl
    | some c =>
      obtain ⟨text, htext, hyaml⟩ := Option.bind_eq_some_iff.1 hc
      obtain ⟨d, hd, hover⟩ := overlaidBy_of_ofYaml? hyaml
      exact ⟨text, d, htext, hd, hover.untouched, hover.enabled, hover.option, hover.reserved⟩

/-- The file in the root of the project stands before a malformed one in the working directory. -/
example :
    let tree := (FileTree.empty.write (["p", "config", "haml-lint.yml"].map Utf8.encode)
      (Utf8.encode "linters:\n  Indentation:\n    width: 4\n")).write
        (["w", ".haml-lint.yml"].map Utf8.encode) (Utf8.encode "linters: [")
    let c := discover ⟨tree, [Utf8.encode "w"]⟩ (some (.ofString "/p")) (.ofString "/w")
    c.path = some (.ofString "/p/config/haml-lint.yml") ∧ c.nat? "Indentation" "width" = some 4 ∧
      c.string? "Indentation" "character" = some "space" := by
  decide +kernel

end LintConfig

end HamlServer
