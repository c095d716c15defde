import HamlServer.CommandLine.Startup
import HamlServer.Proofs.CommandLine.Words
import HamlServer.Proofs.Config.ServerConfig

/-!
# Which layer decides a setting

A setting may be made by the words of the command line, by a variable of the environment and by the
settings file, and each has a default.  The first of these layers that says something decides; only
a switch that the environment turns off while the file turns it on stays on.

* `reads_read`: the settings after the command line and the environment.
* `Layered`, `Switched`: how the layers of a setting come together.
* `serverConfig_layered`: all settings of the server.
-/

namespace HamlServer.Overrides

open ServerConfig

variable {α : Type} {words : List String} {environment : List (String × String)} {o : Overrides}

/-! ## Command line and environment -/

/-- A setting has the value that the command line gives, or else the environment. -/
theorem reads_read (h : read words environment = .ok o) (s : Setting) :
    s.Reads ((given? s words).or (fromEnvironment? s environment)) (o.value? s) := by
  obtain ⟨known, hwords, hfill⟩ := exists_of_bind_eq_ok h
  rw [fill_eq] at hfill
  have hgiven := reads_ofWords hwords s
  cases htext : given? s words with
  | some text =>
    rw [htext] at hgiven
    obtain ⟨v, hv, hvalue⟩ := hgiven
    have hkept : o.value? s = known.value? s := by
      apply value?_foldlM_fillOne hfill
      intro _
      rw [hvalue]
      exact Option.some_ne_none v
    rw [hkept, hvalue, Option.some_or]
    exact ⟨v, hv, rfl⟩
  | none =>
    rw [htext] at hgiven
    rw [Option.none_or]
    have hmem : s ∈ Setting.all := by cases s <;> decide
    exact reads_foldlM_fillOne (by decide) hfill hmem hgiven

/-- The truth value that a text spells. -/
def truthOf? (text : String) : Option Bool :=
  if text = "true" then some true else if text = "false" then some false else none

/-- The number that a text spells. -/
def numberOf? (text : String) : Option Nat := Text.word? text.toList

/-- A value is the one that a text spells; without a text there is none. -/
def Spelled (ofText : String → Option α) (text : Option String) (value : Option α) : Prop :=
  match text with
  | some text => ∃ a, ofText text = some a ∧ value = some a
  | none => value = none

theorem spelled_of_reads {s : Setting} {ofText : String → Option α} {wrap : α → Setting.Value}
    (hwrap : ∀ a b, wrap a = wrap b → a = b)
    (hread : ∀ text v, s.read text = .ok v → ∃ a, ofText text = some a ∧ v = wrap a)
    {text : Option String} {value : Option α} (h : s.Reads text (value.map wrap)) :
    Spelled ofText text value := by
  cases text with
  | none => exact Option.map_eq_none_iff.1 h
  | some text =>
    obtain ⟨v, hv, hvalue⟩ := h
    obtain ⟨a, ha, rfl⟩ := hread text v hv
    obtain ⟨b, rfl, hb⟩ := Option.map_eq_some_iff.1 hvalue
    exact ⟨a, ha, congrArg some (hwrap b a hb)⟩

/-- A setting that is read as a truth value has the one that its text spells. -/
theorem spelled_truth {s : Setting} (hs : ∀ text, s.read text = (readTruth s text).map .truth)
    {text : Option String} {value : Option Bool} (h : s.Reads text (value.map .truth)) :
    Spelled truthOf? text value := by
  apply spelled_of_reads (fun _ _ => Setting.Value.truth.inj) _ h
  intro text v hv
  rw [hs] at hv
  obtain ⟨b, hb, rfl⟩ := exists_of_map_eq_ok hv
  refine ⟨b, ?_, rfl⟩
  unfold readTruth at hb
  unfold truthOf?
  split at hb
  · next htext => rw [if_pos htext, Except.ok.inj hb]
  · next htrue =>
    split at hb
    · next hfalse => rw [if_neg htrue, if_pos hfalse, Except.ok.inj hb]
    · cases hb

/-- A setting that is read as a number has the one that its text spells. -/
theorem spelled_number {s : Setting} (hs : ∀ text, s.read text = (readNumber s text).map .number)
    {text : Option String} {value : Option Nat} (h : s.Reads text (value.map .number)) :
    Spelled numberOf? text value := by
  apply spelled_of_reads (fun _ _ => Setting.Value.number.inj) _ h
  intro text v hv
  rw [hs] at hv
  obtain ⟨n, hn, rfl⟩ := exists_of_map_eq_ok hv
  refine ⟨n, ?_, rfl⟩
  unfold readNumber at hn
  split at hn
  · next m hm => rw [numberOf?, hm, Except.ok.inj hn]
  · cases hn

/-! ## Layers -/

/-- A setting has the value of the first layer that says something: the command line, a variable of
the environment, an entry of the file, the default. -/
def Layered (ofText : String → Option α) (ofEntry : Toml.Value → Option α)
    (line env : Option String) (entry : Option Toml.Value) (default a : α) : Prop :=
  match line, env, entry with
  | some text, _, _ => ofText text = some a
  | none, some text, _ => ofText text = some a
  | none, none, some v => ofEntry v = some a
  | none, none, none => a = default

/-- A switch is on if any layer turns it on.  So the first layer that says something decides, unless
that is the environment and it turns off what the file turns on. -/
def Switched (line env : Option String) (entry : Option Toml.Value) (a : Bool) : Prop :=
  ∃ file, ReadsOr truth? entry false file ∧
    (a = true ↔ line.or env = some "true" ∨ file = true) ∧
    (Layered truthOf? truth? line env entry false a ↔ ¬ (line.or env = some "false" ∧ file = true))

variable {line env : Option String} {entry : Option Toml.Value} {value : Option α}

theorem Spelled.layered {ofText : String → Option α} {ofEntry : Toml.Value → Option α}
    {default file : α} (h : Spelled ofText (line.or env) value)
    (hfile : ReadsOr ofEntry entry default file) :
    Layered ofText ofEntry line env entry default (value.getD file) := by
  cases line with
  | some text =>
    obtain ⟨a, ha, rfl⟩ := h
    exact ha
  | none =>
    cases env with
    | some text =>
      obtain ⟨a, ha, rfl⟩ := h
      exact ha
    | none =>
      obtain rfl : value = none := h
      cases entry <;> exact hfile

theorem layered_iff_of_some {ofText : String → Option α} {ofEntry : Toml.Value → Option α}
    {default a : α} {text : String} (h : line.or env = some text) :
    Layered ofText ofEntry line env entry default a ↔ ofText text = some a := by
  cases line with
  | some given =>
    obtain rfl : given = text := Option.some.inj h
    exact Iff.rfl
  | none =>
    obtain rfl : env = some text := h
    exact Iff.rfl

theorem Spelled.switched {value : Option Bool} (h : Spelled truthOf? (line.or env) value)
    {file : Bool} (hfile : ReadsOr truth? entry false file) :
    Switched line env entry (file || value.getD false) := by
  have hlayered := h.layered hfile
  refine ⟨file, hfile, ?_⟩
  cases htext : line.or env with
  | none =>
    rw [htext] at h
    obtain rfl : value = none := h
    have hdecided : Layered truthOf? truth? line env entry false (file || false) := by
      rw [Bool.or_false]
      exact hlayered
    refine ⟨by simp, fun _ => by simp, fun _ => hdecided⟩
  | some text =>
    rw [htext] at h
    obtain ⟨b, hb, rfl⟩ := h
    rw [layered_iff_of_some htext, hb]
    unfold truthOf? at hb
    split at hb
    · next htrue =>
      obtain rfl := Option.some.inj hb
      subst htrue
      cases file <;> decide
    · split at hb
      · next hfalse =>
        obtain rfl := Option.some.inj hb
        subst hfalse
        cases file <;> decide
      · cases hb

/-! ## All settings -/

/-- The entries of the settings file at a path, none if no file is named or none is there. -/
def fileEntries (d : Directory) (path : Option String) : Toml.Entries :=
  match path with
  | some text =>
    if d.exists? (.ofString text) then
      ((d.readText? (.ofString text)).bind Toml.parse?).getD []
    else []
  | none => []

/-- Which layer decides each setting of the server.  The commands are made by the file alone. -/
structure Decided (words : List String) (environment : List (String × String))
    (entries : Toml.Entries) (c : ServerConfig) : Prop where
  lintEnabled : Switched (given? .lintEnabled words) (fromEnvironment? .lintEnabled environment)
    (entries.lookup "enable_lint") c.lintEnabled
  useBundle : Switched (given? .useBundle words) (fromEnvironment? .useBundle environment)
    (entries.lookup "use_bundle") c.useBundle
  maxDocuments : Layered numberOf? word? (given? .maxDocuments words)
    (fromEnvironment? .maxDocuments environment) (maxDocumentsIn? entries) 100 c.maxDocuments
  ttlSeconds : Layered numberOf? word? (given? .ttlSeconds words)
    (fromEnvironment? .ttlSeconds environment) (ttlSecondsIn? entries) 3600 c.ttlSeconds
  lintCommand :
    ReadsOr text? (inGroup? entries "lint" ["command"] "command") "haml-lint" c.lintCommand
  convertCommand :
    ReadsOr text? (inGroup? entries "convert" ["command"] "command") "html2haml" c.convertCommand

/-- What a file says about the configuration, if it can be read. -/
theorem says_of_load {d : Directory} {path : Path} {f : Option ServerConfig}
    (h : ServerConfig.load d path = .ok f) :
    Says (if d.exists? path then ((d.readText? path).bind Toml.parse?).getD [] else [])
      (f.getD {}) := by
  unfold ServerConfig.load at h
  split at h
  · next hexists =>
    rw [if_pos hexists]
    split at h
    · cases h
    · next text htext =>
      split at h
      · cases h
      · next c hc =>
        obtain rfl := Except.ok.inj h
        obtain ⟨entries, hentries, hc⟩ := Option.bind_eq_some_iff.1 hc
        rw [htext, Option.bind_some, hentries]
        exact says_of_ofEntries? hc
  · next hexists =>
    obtain rfl := Except.ok.inj h
    rw [if_neg hexists]
    exact says_nil

/-- The configuration that a file gives under the settings, and what the file says. -/
theorem exists_says (h : read words environment = .ok o) (d : Directory)
    (hfile : ∀ path, o.config = some path → ∃ f, ServerConfig.load d path = .ok f) :
    ∃ c, o.serverConfig d = .ok (c.overlay o) ∧
      Says
        (fileEntries d ((given? .config words).or (fromEnvironment? .config environment))) c := by
  have hconfig := reads_read h .config
  cases htext : (given? .config words).or (fromEnvironment? .config environment) with
  | none =>
    rw [htext] at hconfig
    have hnone : o.config = none := Option.map_eq_none_iff.1 hconfig
    refine ⟨{}, ?_, says_nil⟩
    rw [serverConfig, hnone]
  | some text =>
    rw [htext] at hconfig
    obtain ⟨v, hv, hvalue⟩ := hconfig
    obtain ⟨path, hpath, rfl⟩ := Option.map_eq_some_iff.1 hvalue
    obtain ⟨named, hnamed, hpathvalue⟩ := exists_of_map_eq_ok hv
    obtain rfl : named = path := Setting.Value.path.inj hpathvalue
    obtain rfl : named = .ofString text := by
      unfold readPath at hnamed
      split at hnamed
      · cases hnamed
      · exact (Except.ok.inj hnamed).symm
    obtain ⟨f, hf⟩ := hfile _ hpath
    refine ⟨f.getD {}, ?_, says_of_load hf⟩
    rw [serverConfig, hpath]
    simp only [hf]

/-- **Which layer decides.**  Once the command line, the environment and the file have been read,
there is a configuration, and each of its settings comes from the first layer that says something,
but for switches that the environment turns off and the file on. -/
theorem serverConfig_layered (h : read words environment = .ok o) (d : Directory)
    (hfile : ∀ path, o.config = some path → ∃ f, ServerConfig.load d path = .ok f) :
    ∃ c, o.serverConfig d = .ok c ∧
      Decided words environment
        (fileEntries d ((given? .config words).or (fromEnvironment? .config environment))) c := by
  obtain ⟨c, hc, hsays⟩ := exists_says h d hfile
  have hlint := spelled_truth (fun _ => rfl) (reads_read h .lintEnabled)
  have hbundle := spelled_truth (fun _ => rfl) (reads_read h .useBundle)
  have hmax := spelled_number (fun _ => rfl) (reads_read h .maxDocuments)
  have httl := spelled_number (fun _ => rfl) (reads_read h .ttlSeconds)
  refine ⟨_, hc, ?_⟩
  constructor
  case lintEnabled => exact hlint.switched hsays.lintEnabled
  case useBundle => exact hbundle.switched hsays.useBundle
  case maxDocuments => exact hmax.layered hsays.maxDocuments
  case ttlSeconds => exact httl.layered hsays.ttlSeconds
  case lintCommand => exact hsays.lintCommand
  case convertCommand => exact hsays.convertCommand

/-- A directory with one settings file. -/
def withSettings (content : String) : Directory where
  tree := FileTree.empty.write [Utf8.encode "haml-ls.toml"] (Utf8.encode content)
  cwd := []

/-- A file that turns a switch on and fills a group. -/
def storeSettings : Directory :=
  withSettings "use_bundle = true\n[store]\nmax_documents = 10\nttl_seconds = 30\n"

/-- Every layer decides something: the command line about the findings and the time, the environment
about the number of documents, the file about the bundle and the defaults about the commands. -/
theorem serverConfig_layered_everyLayer :
    let words := ["--config", "haml-ls.toml", "--enable-lint", "--ttl-seconds=90"]
    let environment := [("HAML_LS_TTL_SECONDS", "8"), ("HAML_LS_MAX_DOCUMENTS", "7")]
    let o : Overrides := { config := some (.ofString "haml-ls.toml"), lintEnabled := some true,
                           maxDocuments := some 7, ttlSeconds := some 90 }
    read words environment = .ok o ∧
    (∀ path, o.config = some path → ∃ f, ServerConfig.load storeSettings path = .ok f) ∧
    ∃ c, o.serverConfig storeSettings = .ok c ∧
      Decided words environment
        (fileEntries storeSettings
          ((given? .config words).or (fromEnvironment? .config environment))) c := by
  intro words environment o
  have hread : read words environment = .ok o := by decide +kernel
  have hfile : ∀ path, o.config = some path →
      ∃ f, ServerConfig.load storeSettings path = .ok f := by
    rintro path ⟨⟩
    exact ⟨some { useBundle := true, maxDocuments := 10, ttlSeconds := 30 }, by decide +kernel⟩
  exact ⟨hread, hfile, serverConfig_layered hread storeSettings hfile⟩

/-- What the file turns on stays on when the environment turns it off. -/
theorem not_layered_turnedOff :
    ¬ ∀ (words : List String) (environment : List (String × String)) (o : Overrides)
        (d : Directory) (c : ServerConfig),
      read words environment = .ok o → o.serverConfig d = .ok c →
      Layered truthOf? truth? (given? .lintEnabled words)
        (fromEnvironment? .lintEnabled environment)
        ((fileEntries d ((given? .config words).or (fromEnvironment? .config environment))).lookup
          "enable_lint") false c.lintEnabled := by
  intro h
  have hlayered := h ["--config", "haml-ls.toml"] [("HAML_LS_ENABLE_LINT", "false")]
    { config := some (.ofString "haml-ls.toml"), lintEnabled := some false }
    (withSettings "enable_lint = true\n") { lintEnabled := true } (by decide +kernel)
    (by decide +kernel)
  have htext : truthOf? "false" = some true :=
    (layered_iff_of_some (by decide +kernel)).1 hlayered
  revert htext
  decide

end HamlServer.Overrides
