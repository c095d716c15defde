import HamlServer.Config.ServerConfig

/-!
# What a settings file says

Each field of the configuration has one entry in the file, at its top or in a group.  A group is a
table or an array that holds the values of its keys in their order.  A field without an entry has
its default, also when its group has others; an entry that does not fit makes the file malformed.

* `lookup_group`: the fields of a group are found where the file has them.
* `says_of_ofEntries?`: every field of the configuration comes from its entry.
-/

namespace HamlServer.ServerConfig

open Toml

variable {α : Type} {entries : Entries} {c : ServerConfig}

/-! ## Entries -/

/-- A field has the value that its entry stands for, and its default if it has no entry. -/
def ReadsOr (read : Value → Option α) (entry : Option Value) (default a : α) : Prop :=
  match entry with
  | some v => read v = some a
  | none => a = default

theorem readsOr_of_fieldOr {name : String} {read : Value → Option α} {default a : α}
    (h : fieldOr entries name read default = some a) :
    ReadsOr read (entries.lookup name) default a := by
  unfold fieldOr at h
  unfold ReadsOr
  split at h
  · next hnone =>
    rw [hnone]
    exact (Option.some.inj h).symm
  · next v hv =>
    rw [hv]
    exact h

/-- The value of a key in what stands for a group with these keys. -/
def member? (keys : List String) (key : String) : Value → Option Value
  | .table _ entries => entries.lookup key
  | .array items => (keys.zip items).lookup key
  | .tables items => (keys.zip items).lookup key
  | _ => none

/-- The entry of a key in a group. -/
def inGroup? (entries : Entries) (group : String) (keys : List String) (key : String) :
    Option Value :=
  (entries.lookup group).bind (member? keys key)

theorem lookup_fields {keys : List String} {v : Value} {fields : Entries}
    (h : fields? keys v = some fields) (key : String) :
    fields.lookup key = member? keys key v := by
  unfold fields? at h
  split at h
  · split at h
    · obtain rfl := Option.some.inj h
      rfl
    · cases h
  · obtain rfl := Option.some.inj h
    rfl
  · obtain rfl := Option.some.inj h
    rfl
  · obtain rfl := Option.some.inj h
    rfl
  · cases h

/-- A field of a group is found where the file has it. -/
theorem lookup_group {name : String} {keys : List String} {fields : Entries}
    (h : group entries name keys = some fields) (key : String) :
    fields.lookup key = inGroup? entries name keys key := by
  have hgroup := readsOr_of_fieldOr h
  unfold ReadsOr at hgroup
  unfold inGroup?
  split at hgroup
  · next v hv =>
    rw [hv]
    exact lookup_fields hgroup key
  · next hnone =>
    rw [hnone, hgroup]
    rfl

/-! ## The configuration -/

/-- The entry of the number of documents. -/
def maxDocumentsIn? (entries : Entries) : Option Value :=
  inGroup? entries "store" ["max_documents", "ttl_seconds"] "max_documents"

/-- The entry of the time that a document is kept. -/
def ttlSecondsIn? (entries : Entries) : Option Value :=
  inGroup? entries "store" ["max_documents", "ttl_seconds"] "ttl_seconds"

/-- What the entries of a file say about the configuration. -/
structure Says (entries : Entries) (c : ServerConfig) : Prop where
  lintEnabled : ReadsOr truth? (entries.lookup "enable_lint") false c.lintEnabled
  useBundle : ReadsOr truth? (entries.lookup "use_bundle") false c.useBundle
  maxDocuments : ReadsOr word? (maxDocumentsIn? entries) 100 c.maxDocuments
  ttlSeconds : ReadsOr word? (ttlSecondsIn? entries) 3600 c.ttlSeconds
  lintCommand :
    ReadsOr text? (inGroup? entries "lint" ["command"] "command") "haml-lint" c.lintCommand
  convertCommand :
    ReadsOr text? (inGroup? entries "convert" ["command"] "command") "html2haml" c.convertCommand

/-- No entries leave the defaults. -/
theorem says_nil : Says [] {} := ⟨rfl, rfl, rfl, rfl, rfl, rfl⟩

theorem says_of_ofEntries? (h : ofEntries? entries = some c) : Says entries c := by
  obtain ⟨top, htop, h⟩ := Option.bind_eq_some_iff.1 h
  obtain ⟨store, hstore, h⟩ := Option.bind_eq_some_iff.1 h
  obtain ⟨lint, hlint, h⟩ := Option.bind_eq_some_iff.1 h
  obtain ⟨convert, hconvert, h⟩ := Option.bind_eq_some_iff.1 h
  obtain ⟨lintEnabled, hlintEnabled, h⟩ := Option.bind_eq_some_iff.1 h
  obtain ⟨useBundle, huseBundle, h⟩ := Option.bind_eq_some_iff.1 h
  obtain ⟨maxDocuments, hmaxDocuments, h⟩ := Option.bind_eq_some_iff.1 h
  obtain ⟨ttlSeconds, httlSeconds, h⟩ := Option.bind_eq_some_iff.1 h
  obtain ⟨lintCommand, hlintCommand, h⟩ := Option.bind_eq_some_iff.1 h
  obtain ⟨convertCommand, hconvertCommand, h⟩ := Option.bind_eq_some_iff.1 h
  obtain rfl := Option.some.inj h
  obtain rfl : entries = top := by
    simp only [fields?] at htop
    split at htop
    · exact Option.some.inj htop
    · cases htop
  constructor
  case lintEnabled => exact readsOr_of_fieldOr hlintEnabled
  case useBundle => exact readsOr_of_fieldOr huseBundle
  case maxDocuments =>
    rw [maxDocumentsIn?, ← lookup_group hstore]
    exact readsOr_of_fieldOr hmaxDocuments
  case ttlSeconds =>
    rw [ttlSecondsIn?, ← lookup_group hstore]
    exact readsOr_of_fieldOr httlSeconds
  case lintCommand =>
    rw [← lookup_group hlint]
    exact readsOr_of_fieldOr hlintCommand
  case convertCommand =>
    rw [← lookup_group hconvert]
    exact readsOr_of_fieldOr hconvertCommand

end HamlServer.ServerConfig
