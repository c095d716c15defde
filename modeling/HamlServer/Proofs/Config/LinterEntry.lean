import HamlServer.Config.LintConfig
import HamlServer.Proofs.Yaml.Reading

/-!
# What a settings file says about the linters

The map `linters` of a document has an entry for each linter that the file mentions, and each entry
is a map: `enabled` says whether the linter is, and all other keys are options with their values.
Of several entries with one key the last counts, but `linters` and `enabled` stand at most once.

* `describes_of_readLinter`: what is read from the map of one linter.
* `describesAll_of_readDocument`: a document is read linter by linter.
-/

namespace HamlServer.LintConfig

open Yaml

variable {d : Document} {n v : Node} {es : List (String × Node)} {e e' : LinterEntry}
  {s s' depth : Nat} {α : Type}

/-! ## Maps -/

theorem keyText?_of_run {text : String} (h : (keyText d n).run s = some (text, s')) :
    d.keyText? n = some text := by
  unfold keyText at h
  obtain ⟨t, mid, ht, h⟩ := exists_of_run_bind h
  unfold Document.keyText?
  rw [target?_of_resolve ht]
  cases t with
  | scalar text' style tag =>
    obtain ⟨rfl, -⟩ := Prod.mk.inj (Option.some.inj h)
    rfl
  | _ => cases h

theorem filterMap_of_run_mapM {entries : List (Node × Node)}
    (h : (entries.mapM fun (k, v) => do return (← keyText d k, v) : Reading _).run s =
      some (es, s')) :
    (entries.filterMap fun (k, v) => (d.keyText? k).map (·, v)) = es := by
  induction entries generalizing es s s' with
  | nil =>
    obtain ⟨rfl, -⟩ := Prod.mk.inj (Option.some.inj h)
    rfl
  | cons entry entries ih =>
    obtain ⟨k, v⟩ := entry
    rw [List.mapM_cons] at h
    obtain ⟨named, mid, hnamed, h⟩ := exists_of_run_bind h
    obtain ⟨rest, last, hrest, h⟩ := exists_of_run_bind h
    obtain ⟨rfl, -⟩ := Prod.mk.inj (Option.some.inj h)
    obtain ⟨text, mid', htext, h⟩ := exists_of_run_bind hnamed
    obtain ⟨rfl, -⟩ := Prod.mk.inj (Option.some.inj h)
    rw [List.filterMap_cons_some (b := (text, v)), ih hrest]
    show (d.keyText? k).map (·, v) = some (text, v)
    rw [keyText?_of_run htext, Option.map_some]

/-- The entries that are read of a map are those of the node. -/
theorem entries_of_mapEntries (h : (mapEntries d n).run s = some (es, s')) : d.entries n = es := by
  unfold mapEntries at h
  obtain ⟨t, mid, ht, h⟩ := exists_of_run_bind h
  unfold Document.entries
  rw [target?_of_resolve ht]
  dsimp only at h ⊢
  split at h
  · exact filterMap_of_run_mapM h
  · obtain ⟨rfl, -⟩ := Prod.mk.inj (Option.some.inj h)
    rfl
  · cases h

/-- An entry gives a value; without an entry, what was there before stays. -/
def Sets (entry : Option Node) (reads : Node → α → Prop) (before after : Option α) : Prop :=
  match entry with
  | none => after = before
  | some n => ∃ a, reads n a ∧ after = some a

section

variable {reads : Node → α → Prop} {before after : Option α}

/-- What an entry gives goes before what was there. -/
theorem Sets.or {entry : Option Node} (h : Sets entry reads none after) (before : Option α) :
    Sets entry reads before (after.or before) := by
  cases entry with
  | none =>
    show after.or before = before
    rw [show after = none from h, Option.none_or]
  | some n =>
    obtain ⟨a, ha, hafter⟩ := h
    exact ⟨a, ha, by rw [hafter, Option.some_or]⟩

/-- Of two entries that are read in turn the later holds, if it is there. -/
theorem Sets.trans {earlier later : Option Node} {mid : Option α}
    (hearlier : Sets earlier reads before mid) (hlater : Sets later reads mid after) :
    Sets (later.or earlier) reads before after := by
  cases later with
  | some n => exact hlater
  | none =>
    obtain rfl : after = mid := hlater
    exact hearlier

/-- Entries are read in turn, and the last with a key stays. -/
theorem Sets.cons {k key : String} {a : α} {l : List (String × α)} (ha : reads v a)
    (h : Sets (es.reverse.lookup key) reads ((setKey k a l).lookup key) after) :
    Sets (((k, v) :: es).reverse.lookup key) reads (l.lookup key) after := by
  rw [lookup_reverse_cons]
  apply Sets.trans _ h
  rw [lookup_setKey]
  split
  · exact ⟨a, ha, rfl⟩
  · rfl

end

/-! ## One linter -/

/-- A node spells a truth value or null. -/
def HasTruth (d : Document) (n : Node) (t : Option Bool) : Prop :=
  ∃ left left', (optionalTruth d n).run left = some (t, left')

theorem steady_optionalTruth (d : Document) (n : Node) : Steady (optionalTruth d n) := by
  unfold optionalTruth
  apply (steady_resolve d n).bind
  intro t
  cases t with
  | scalar text style tag =>
    dsimp only
    split
    · split
      · exact Steady.failure
      · exact Steady.pure none
      · exact (Steady.lift (truth? text)).bind fun b => Steady.pure (some b)
    · split
      · exact (Steady.lift (truth? text)).bind fun b => Steady.pure (some b)
      · exact Steady.failure
  | _ => exact Steady.failure

/-- A node spells one truth value. -/
theorem HasTruth.unique {t u : Option Bool} (ht : HasTruth d n t) (hu : HasTruth d n u) :
    t = u := by
  obtain ⟨leftT, leftT', ht⟩ := ht
  obtain ⟨leftU, leftU', hu⟩ := hu
  exact (steady_optionalTruth d n).unique ht hu

/-- What the entries under some keys add to what is known of a linter: `enabled` says whether it is,
and all other keys are options. -/
structure Adds (d : Document) (depth : Nat) (find : String → Option Node) (e e' : LinterEntry) :
    Prop where
  enabled : Sets (find "enabled") (HasTruth d) (some e.enabled) (some e'.enabled)
  option : ∀ key, key ≠ "enabled" →
    Sets (find key) (d.HasValue depth) (e.options.lookup key) (e'.options.lookup key)
  reserved : e'.options.lookup "enabled" = e.options.lookup "enabled"
  distinct : (e.options.map (·.1)).Nodup → (e'.options.map (·.1)).Nodup

theorem readLinter_enabled (v : Node) (es : List (String × Node)) :
    readLinter d depth e false (("enabled", v) :: es) =
      optionalTruth d v >>= fun t => readLinter d depth { e with enabled := t } true es := rfl

theorem readLinter_enabled_seen (v : Node) (es : List (String × Node)) :
    (readLinter d depth e true (("enabled", v) :: es)).run s = none := rfl

theorem readLinter_option {k : String} (hk : k ≠ "enabled") (seen : Bool) (v : Node)
    (es : List (String × Node)) :
    readLinter d depth e seen ((k, v) :: es) =
      d.value depth v >>= fun x =>
        readLinter d depth { e with options := setKey k x e.options } seen es := by
  rw [readLinter]
  exact hk

/-- Reading adds the entries.  Behind an `enabled` there is no other, so it is not set again. -/
theorem adds_of_readLinter {seen : Bool}
    (h : (readLinter d depth e seen es).run s = some (e', s')) :
    Adds d depth (List.lookup · es.reverse) e e' := by
  induction es generalizing e seen s with
  | nil =>
    obtain ⟨rfl, -⟩ := Prod.mk.inj (Option.some.inj h)
    exact ⟨rfl, fun key hkey => rfl, rfl, id⟩
  | cons entry es ih =>
    obtain ⟨k, v⟩ := entry
    by_cases hk : k = "enabled"
    · subst hk
      cases seen with
      | true => cases h.symm.trans (readLinter_enabled_seen v es)
      | false =>
        rw [readLinter_enabled] at h
        obtain ⟨t, mid, ht, hrest⟩ := exists_of_run_bind h
        have hadds := ih hrest
        refine ⟨?_, ?_, hadds.reserved, hadds.distinct⟩
        · rw [lookup_reverse_cons, if_pos rfl]
          exact Sets.trans ⟨t, ⟨s, mid, ht⟩, rfl⟩ hadds.enabled
        · intro key hkey
          rw [lookup_reverse_cons, if_neg hkey, Option.or_none]
          exact hadds.option key hkey
    · rw [readLinter_option hk] at h
      obtain ⟨x, mid, hx, hrest⟩ := exists_of_run_bind h
      have hadds := ih hrest
      have hreserved := hadds.reserved
      rw [lookup_setKey, if_neg (Ne.symm hk)] at hreserved
      refine ⟨?_, ?_, hreserved, ?_⟩
      · rw [lookup_reverse_cons, if_neg (Ne.symm hk), Option.or_none]
        exact hadds.enabled
      · intro key hkey
        exact Sets.cons ⟨s, mid, hx⟩ (hadds.option key hkey)
      · intro hdistinct
        exact hadds.distinct (nodup_setKey hdistinct k x)

/-- What the map at a node says about a linter. -/
def Describes (d : Document) (depth : Nat) (n : Node) (e : LinterEntry) : Prop :=
  Adds d depth (d.member? · n) {} e

theorem describes_of_readLinter {mid : Nat} (hentries : (mapEntries d n).run s = some (es, mid))
    (h : (readLinter d depth {} false es).run mid = some (e, s')) : Describes d depth n e := by
  have hadds := adds_of_readLinter h
  rw [← entries_of_mapEntries hentries] at hadds
  exact hadds

/-! ## All linters -/

/-- Reads one linter after the other; of two entries for the same linter the later holds. -/
theorem run_foldlM {acc entries : List (String × LinterEntry)}
    (h : (es.foldlM (fun acc (name, v) => do
      return setKey name (← readLinter d depth {} false (← mapEntries d v)) acc) acc :
        Reading _).run s = some (entries, s')) :
    ((acc.map (·.1)).Nodup → (entries.map (·.1)).Nodup) ∧
      ∀ name,
        Sets (es.reverse.lookup name) (Describes d depth) (acc.lookup name)
          (entries.lookup name) := by
  induction es generalizing acc s with
  | nil =>
    obtain ⟨rfl, -⟩ := Prod.mk.inj (Option.some.inj h)
    exact ⟨id, fun name => rfl⟩
  | cons entry es ih =>
    obtain ⟨k, v⟩ := entry
    rw [List.foldlM_cons] at h
    obtain ⟨acc', mid, hacc, hrest⟩ := exists_of_run_bind h
    obtain ⟨ms, mid', hms, hread⟩ := exists_of_run_bind hacc
    obtain ⟨e, last, he, hset⟩ := exists_of_run_bind hread
    obtain ⟨rfl, -⟩ := Prod.mk.inj (Option.some.inj hset)
    obtain ⟨hdistinct, hlookup⟩ := ih hrest
    refine ⟨fun hacc => hdistinct (nodup_setKey hacc k e), ?_⟩
    intro name
    exact Sets.cons (describes_of_readLinter hms he) (hlookup name)

/-- What is read about each linter that a map has an entry for. -/
def DescribesAll (d : Document) (depth : Nat) (find : String → Option Node)
    (entries : List (String × LinterEntry)) : Prop :=
  (entries.map (·.1)).Nodup ∧
    ∀ name, Sets (find name) (Describes d depth) none (entries.lookup name)

theorem DescribesAll.lookup_eq_none {find : String → Option Node} {name : String}
    {entries : List (String × LinterEntry)} (h : DescribesAll d depth find entries)
    (hname : find name = none) : entries.lookup name = none := by
  have hentry := h.2 name
  rw [hname] at hentry
  exact hentry

theorem DescribesAll.exists_describes {find : String → Option Node} {name : String}
    {entries : List (String × LinterEntry)} (h : DescribesAll d depth find entries)
    (hname : find name = some n) :
    ∃ e, Describes d depth n e ∧ entries.lookup name = some e := by
  have hentry := h.2 name
  rw [hname] at hentry
  exact hentry

theorem describesAll_nil {find : String → Option Node} (h : ∀ name, find name = none) :
    DescribesAll d depth find [] := by
  refine ⟨List.nodup_nil, ?_⟩
  intro name
  rw [h name]
  rfl

theorem describesAll_of_readLinters {entries : List (String × LinterEntry)}
    (h : (readLinters d depth n).run s = some (entries, s')) :
    DescribesAll d depth (d.member? · n) entries := by
  unfold readLinters at h
  obtain ⟨es, mid, hes, hread⟩ := exists_of_run_bind h
  obtain ⟨hdistinct, hlookup⟩ := run_foldlM hread
  rw [← entries_of_mapEntries hes] at hlookup
  exact ⟨hdistinct List.nodup_nil, hlookup⟩

theorem lookup_reverse_eq_none_of_filter {name : String}
    (h : es.filter (·.1 == name) = []) : es.reverse.lookup name = none := by
  apply lookup_eq_none_of_notMem
  intro hmem
  obtain ⟨entry, hentry, hname⟩ := List.mem_map.1 hmem
  have hnone := List.filter_eq_nil_iff.1 h entry (List.mem_reverse.1 hentry)
  exact hnone (beq_iff_eq.2 hname)

/-- An entry that stands alone under its key is found. -/
theorem lookup_reverse_of_filter {name k : String}
    (h : es.filter (·.1 == name) = [(k, v)]) : es.reverse.lookup name = some v := by
  induction es with
  | nil => cases h
  | cons entry es ih =>
    obtain ⟨k', v'⟩ := entry
    rw [List.filter_cons] at h
    rw [lookup_reverse_cons]
    split at h
    · next hk =>
      obtain ⟨hentry, hrest⟩ := List.cons.inj h
      rw [lookup_reverse_eq_none_of_filter hrest, if_pos (beq_iff_eq.1 hk).symm,
        (Prod.mk.inj hentry).2, Option.none_or]
    · rw [ih h, Option.some_or]

/-- The entry `linters` of a map, which may stand once. -/
theorem describesAll_of_linters {root : Node} {entries : List (String × LinterEntry)}
    (h : (do
      let found := (← mapEntries d root).filter (·.1 == "linters")
      match found with
      | [] => return []
      | [(_, v)] => readLinters d depth v
      | _ => failure : Reading _).run s = some (entries, s')) :
    DescribesAll d depth (fun name => (d.member? "linters" root).bind (d.member? name))
      entries := by
  obtain ⟨es, mid, hes, hread⟩ := exists_of_run_bind h
  have hlinters : d.member? "linters" root = es.reverse.lookup "linters" := by
    rw [Document.member?, entries_of_mapEntries hes]
  dsimp only at hread
  split at hread
  · next hnone =>
    obtain ⟨rfl, -⟩ := Prod.mk.inj (Option.some.inj hread)
    apply describesAll_nil
    intro name
    rw [hlinters, lookup_reverse_eq_none_of_filter hnone, Option.bind_none]
  · next hone =>
    rw [hlinters, lookup_reverse_of_filter hone]
    exact describesAll_of_readLinters hread
  · cases hread

/-- A document is read linter by linter. -/
theorem describesAll_of_readDocument {entries : List (String × LinterEntry)}
    (h : (readDocument d).run s = some (entries, s')) :
    DescribesAll d (maxNesting - 3) (fun name => d.at? ["linters", name]) entries := by
  have hat (name : String) :
      d.at? ["linters", name] = (d.root.bind (d.member? "linters")).bind (d.member? name) := rfl
  unfold readDocument at h
  split at h
  · next root hroot =>
    rw [hroot, Option.bind_some] at hat
    simp only [hat]
    dsimp only at h
    split at h
    · next text tag =>
      split at h
      · cases h
      · obtain ⟨rfl, -⟩ := Prod.mk.inj (Option.some.inj h)
        exact describesAll_nil fun name => rfl
      · exact describesAll_of_linters h
    · exact describesAll_of_linters h
  · next hroot =>
    obtain ⟨rfl, -⟩ := Prod.mk.inj (Option.some.inj h)
    apply describesAll_nil
    intro name
    rw [hat]
    cases hr : d.root with
    | none => rfl
    | some root => exact absurd hr (hroot root)

end HamlServer.LintConfig
