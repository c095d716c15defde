import HamlServer.CommandLine.Words
import HamlServer.Proofs.Text.Ink
import HamlServer.Text.Line

/-!
# What the words of the command line say

A command line is read word by word, and a value may wait for its option to be settled.  Seen from
outside there is none of this: what is given for a setting stands behind the first word that is its
option, and reading it is all that happens to it.  The environment fills the gaps.

* `Adds`: what one text does to the settings.
* `step_cases`, `option_cases`: the ways in which a word is taken.
* `Carries`: what is said about a setting is either still to come or has been read.
* `reads_ofWords`: the settings after the words of the command line.
* `value?_foldlM_fillOne`, `reads_foldlM_fillOne`: what the environment leaves and what it fills.
-/

namespace HamlServer

open Text

/-! ## Settings and their values -/

/-- A value of a setting. -/
inductive Setting.Value where
  | path (p : Path)
  | truth (b : Bool)
  | number (n : Nat)
  deriving DecidableEq, Repr

namespace Setting

/-- The value that a text spells for a setting. -/
def read (s : Setting) (text : String) : Except Halt Value :=
  match s with
  | .config | .root | .logFile => (Overrides.readPath s text).map .path
  | .lintEnabled | .useBundle | .stdio => (Overrides.readTruth s text).map .truth
  | .maxDocuments | .ttlSeconds => (Overrides.readNumber s text).map .number

/-- A setting has the value that the text given for it spells, and none if no text is given. -/
def Reads (s : Setting) (text : Option String) (value : Option Value) : Prop :=
  match text with
  | some text => ∃ v, s.read text = .ok v ∧ value = some v
  | none => value = none

theorem option_inj {s s' : Setting} : "--" ++ s.optionName = "--" ++ s'.optionName ↔ s = s' := by
  cases s <;> cases s' <;> decide

theorem optionName_of_ofOptionName? {name : String} {s : Setting}
    (h : ofOptionName? name = some s) : name = s.optionName := by
  have hs := List.find?_some h
  exact (eq_of_beq hs).symm

theorem equals_notMem_option (s : Setting) : '=' ∉ ("--" ++ s.optionName).toList := by
  cases s <;> decide

end Setting

theorem exists_of_map_eq_ok {ε α β : Type} {x : Except ε α} {f : α → β} {b : β}
    (h : x.map f = .ok b) : ∃ a, x = .ok a ∧ f a = b := by
  cases x with
  | error e => cases h
  | ok a => exact ⟨a, rfl, Except.ok.inj h⟩

theorem exists_of_bind_eq_ok {ε α β : Type} {x : Except ε α} {f : α → Except ε β} {b : β}
    (h : (x >>= f) = .ok b) : ∃ a, x = .ok a ∧ f a = .ok b := by
  cases x with
  | error e => cases h
  | ok a => exact ⟨a, rfl, h⟩

namespace Overrides

variable {o o' : Overrides} {s s' : Setting} {word text : String}

/-- The value of a setting, if something was said about it. -/
def value? (o : Overrides) : Setting → Option Setting.Value
  | .config => o.config.map .path
  | .root => o.root.map .path
  | .lintEnabled => o.lintEnabled.map .truth
  | .useBundle => o.useBundle.map .truth
  | .maxDocuments => o.maxDocuments.map .number
  | .ttlSeconds => o.ttlSeconds.map .number
  | .logFile => o.logFile.map .path
  | .stdio => o.stdio.map .truth

theorem isSome_value? (o : Overrides) (s : Setting) : (o.value? s).isSome = o.has s := by
  cases s <;> exact Option.isSome_map

/-- The settings `o'` are `o` with one more, which a text gives. -/
def Adds (o : Overrides) (s : Setting) (text : String) (o' : Overrides) : Prop :=
  o.value? s = none ∧ ∃ v, s.read text = .ok v ∧
    ∀ s', o'.value? s' = if s' = s then some v else o.value? s'

theorem put_eq_ok (h : o.put s text = .ok o') :
    ∃ v, s.read text = .ok v ∧ ∀ s', o'.value? s' = if s' = s then some v else o.value? s' := by
  cases s
  all_goals
    obtain ⟨v, hv, rfl⟩ := exists_of_map_eq_ok h
    refine ⟨_, by rw [Setting.read, hv]; rfl, ?_⟩
    intro s'
    cases s' <;> rfl

theorem value?_eq_none (h : o.has s = false) : o.value? s = none := by
  rw [← isSome_value?] at h
  exact Option.not_isSome_iff_eq_none.1 (by rw [h]; exact Bool.false_ne_true)

theorem adds_of_add (h : o.add s text = .ok o') : o.Adds s text o' := by
  rw [add] at h
  split at h
  · cases h
  · next hhas => exact ⟨value?_eq_none (Bool.eq_false_iff.2 hhas), put_eq_ok h⟩

/-! ## Words -/

/-- The text that words give for a setting.  It stands behind the first word that is the option of
the setting, either behind an equals sign or in the next word; an option that stands alone says
`true`. -/
def given? (s : Setting) : List String → Option String
  | [] => none
  | word :: rest =>
    match cutAt '=' word.toList with
    | some (name, text) =>
      if name = ("--" ++ s.optionName).toList then some (String.ofList text) else given? s rest
    | none =>
      if word = "--" ++ s.optionName then if s.isFlag then some "true" else rest.head?
      else given? s rest

theorem given?_cons_alone (rest : List String) :
    given? s' (("--" ++ s.optionName) :: rest) =
      if s = s' then if s.isFlag then some "true" else rest.head? else given? s' rest := by
  rw [given?, cutAt_eq_none s.equals_notMem_option]
  by_cases hs : s = s'
  · subst hs
    simp
  · have hne : "--" ++ s.optionName ≠ "--" ++ s'.optionName := mt Setting.option_inj.1 hs
    rw [if_neg hs]
    exact if_neg hne

theorem given?_cons_joined (text : List Char) (rest : List String) :
    given? s' (String.ofList (("--" ++ s.optionName).toList ++ '=' :: text) :: rest) =
      if s = s' then some (String.ofList text) else given? s' rest := by
  rw [given?, String.toList_ofList, cutAt_append s.equals_notMem_option]
  by_cases hs : s = s'
  · subst hs
    simp
  · have hne : ("--" ++ s.optionName).toList ≠ ("--" ++ s'.optionName).toList :=
      mt (fun h => Setting.option_inj.1 (String.toList_inj.1 h)) hs
    rw [if_neg hs]
    exact if_neg hne

/-- A word that does not begin like an option gives nothing. -/
theorem given?_cons_other (h : ¬ ['-', '-'] <+: word.toList) (rest : List String) :
    given? s (word :: rest) = given? s rest := by
  have hoption : ∀ back, word.toList ≠ ("--" ++ s.optionName).toList ++ back := by
    intro back hback
    apply h
    rw [hback, String.toList_append, List.append_assoc]
    exact List.prefix_append ['-', '-'] _
  rw [given?]
  split
  · next name text hcut =>
    obtain ⟨hword, -⟩ := cutAt_eq_some hcut
    rw [if_neg]
    rintro rfl
    exact hoption _ hword
  · rw [if_neg]
    rintro rfl
    exact hoption [] (List.append_nil _).symm

theorem ofString_eq_plain (h : Word.ofString word = .plain text) :
    text = word ∧ ¬ ['-', '-'] <+: word.toList := by
  unfold Word.ofString at h
  split at h
  · cases h
  · cases h
  · next hlong _ =>
    refine ⟨(Word.plain.inj h).symm, ?_⟩
    rintro ⟨r, hr⟩
    exact hlong r hr.symm

theorem ofString_eq_long {name : String} {value : Option String}
    (h : Word.ofString word = .long name value) :
    (value = none ∧ word = "--" ++ name) ∨
      ∃ text, value = some (String.ofList text) ∧
        word = String.ofList (("--" ++ name).toList ++ '=' :: text) := by
  unfold Word.ofString at h
  split at h
  · next r hword =>
    obtain ⟨hname, hvalue⟩ := Word.long.inj h
    have hr := List.takeWhile_append_dropWhile (p := (· ≠ '=')) (l := r)
    have hstop := dropWhile_stop (· ≠ '=') r
    rw [drop_length_takeWhile] at hvalue
    generalize r.takeWhile (· ≠ '=') = front at hr hname
    generalize r.dropWhile (· ≠ '=') = back at hr hvalue hstop
    subst hname hr
    cases back with
    | nil =>
      refine Or.inl ⟨hvalue.symm, ?_⟩
      rw [← String.toList_inj, hword, List.append_nil]
      simp
    | cons c text =>
      -- what stops the name is the equals sign
      obtain rfl : c = '=' := by simpa using hstop c rfl
      refine Or.inr ⟨text, hvalue.symm, ?_⟩
      rw [← String.toList_inj, hword]
      simp
  · cases h
  · cases h

/-! ## One word -/

namespace Partial

variable {p p' : Partial}

theorem settle_cases (h : p.settle = .ok o) :
    (p.waiting = none ∧ o = p.known) ∨
      ∃ s text, p.waiting = some (s, some text) ∧ p.known.Adds s text o := by
  unfold settle at h
  split at h
  · next hwaiting => exact Or.inl ⟨hwaiting, (Except.ok.inj h).symm⟩
  · cases h
  · next s text hwaiting => exact Or.inr ⟨s, text, hwaiting, adds_of_add h⟩

/-- The ways in which an option is taken: its text is there and is read at once, or it waits. -/
theorem option_cases {value : Option String} (h : p.option s value = .ok p') :
    ∃ known, p.settle = .ok known ∧
      ((∃ text, value = some text ∧ known.Adds s text p'.known ∧ p'.waiting = none) ∨
        (value = none ∧ s.isFlag = true ∧ known.Adds s "true" p'.known ∧ p'.waiting = none) ∨
        (value = none ∧ s.isFlag = false ∧ p' = ⟨known, some (s, none)⟩)) := by
  unfold option at h
  split at h
  · next hflag =>
    split at h
    · cases h
    · next hvalue =>
      have hnone : value = none := by simpa using hvalue
      obtain ⟨known, hsettle, h⟩ := exists_of_bind_eq_ok h
      obtain ⟨known', hadd, h⟩ := exists_of_bind_eq_ok h
      obtain rfl := Except.ok.inj h
      exact ⟨known, hsettle, Or.inr (Or.inl ⟨hnone, hflag, adds_of_add hadd, rfl⟩)⟩
  · next hflag =>
    split at h
    · next text =>
      obtain ⟨known, hsettle, h⟩ := exists_of_bind_eq_ok h
      obtain ⟨known', hadd, h⟩ := exists_of_bind_eq_ok h
      obtain rfl := Except.ok.inj h
      exact ⟨known, hsettle, Or.inl ⟨text, rfl, adds_of_add hadd, rfl⟩⟩
    · obtain ⟨known, hsettle, h⟩ := exists_of_bind_eq_ok h
      obtain rfl := Except.ok.inj h
      exact ⟨known, hsettle, Or.inr (Or.inr ⟨rfl, Bool.eq_false_iff.2 hflag, rfl⟩)⟩

theorem answer_ne_ok (p : Partial) (value : Option String) (name : String) (e : Halt) :
    p.answer value name e ≠ .ok p' := by
  unfold answer
  intro h
  split at h
  · cases h
  · split at h <;> cases h

/-- The ways in which a word is taken: as the value that an option waits for, or as an option. -/
theorem step_cases {w : Word} (h : p.step w = .ok p') :
    (∃ s text, w = .plain text ∧ p.waiting = some (s, none) ∧
      p' = ⟨p.known, some (s, some text)⟩) ∨
      ∃ s value, w = .long s.optionName value ∧ p.option s value = .ok p' := by
  cases w with
  | plain text =>
    rw [step] at h
    split at h
    · next s hwaiting => exact Or.inl ⟨s, text, rfl, hwaiting, (Except.ok.inj h).symm⟩
    · cases h
  | short c =>
    rw [step] at h
    split at h
    · exact absurd h (answer_ne_ok _ _ _ _)
    · split at h
      · exact absurd h (answer_ne_ok _ _ _ _)
      · cases h
  | long name value =>
    rw [step] at h
    split at h
    · exact absurd h (answer_ne_ok _ _ _ _)
    · split at h
      · exact absurd h (answer_ne_ok _ _ _ _)
      · split at h
        · next s hs =>
          obtain rfl := Setting.optionName_of_ofOptionName? hs
          exact Or.inr ⟨s, value, rfl, h⟩
        · cases h

/-! ## All words -/

/-- The text for a setting that still has to be read: it waits, or it is in the words to come. -/
def text? (p : Partial) (s : Setting) (words : List String) : Option String :=
  match p.waiting with
  | some (s', text) => if s' = s then text.or words.head? else given? s words
  | none => given? s words

end Partial

/-- What happens to a setting on the way from `o` with the text `before` still to be read to `o'`
with the text `after`: nothing, or its text is read. -/
def Carries (s : Setting) (o : Overrides) (before : Option String) (o' : Overrides)
    (after : Option String) : Prop :=
  (o'.value? s = o.value? s ∧ after = before) ∨
    (o.value? s = none ∧ ∃ text v, before = some text ∧ s.read text = .ok v ∧ o'.value? s = some v)

theorem Carries.trans {o₁ o₂ o₃ : Overrides} {t₁ t₂ t₃ : Option String}
    (h : Carries s o₁ t₁ o₂ t₂) (h' : Carries s o₂ t₂ o₃ t₃) : Carries s o₁ t₁ o₃ t₃ := by
  rcases h with ⟨hvalue, rfl⟩ | ⟨hnone, text, v, htext, hv, hsome⟩
  · rcases h' with ⟨hvalue', rfl⟩ | ⟨hnone', hread⟩
    · exact Or.inl ⟨hvalue'.trans hvalue, rfl⟩
    · exact Or.inr ⟨hvalue ▸ hnone', hread⟩
  · rcases h' with ⟨hvalue', -⟩ | ⟨hnone', -⟩
    · exact Or.inr ⟨hnone, text, v, htext, hv, hvalue'.trans hsome⟩
    · rw [hsome] at hnone'
      cases hnone'

/-- A text that is read is no longer to come. -/
theorem Adds.carries (h : o.Adds s' text o') (s : Setting) (after : Option String) :
    Carries s o (if s' = s then some text else after) o' after := by
  obtain ⟨hnone, v, hv, hvalue⟩ := h
  by_cases hs : s' = s
  · subst hs
    refine Or.inr ⟨hnone, text, v, if_pos rfl, hv, ?_⟩
    rw [hvalue, if_pos rfl]
  · refine Or.inl ⟨?_, (if_neg hs).symm⟩
    rw [hvalue, if_neg (Ne.symm hs)]

namespace Partial

variable {p p' : Partial}

theorem text?_of_not_waiting (h : p.waiting = none) (s : Setting) (words : List String) :
    p.text? s words = given? s words := by
  rw [text?, h]

theorem settle_carries (h : p.settle = .ok o) (s : Setting) (words : List String) :
    Carries s p.known (p.text? s words) o (given? s words) := by
  rcases settle_cases h with ⟨hwaiting, rfl⟩ | ⟨s', text, hwaiting, hadds⟩
  · exact Or.inl ⟨rfl, (text?_of_not_waiting hwaiting s words).symm⟩
  · have htext : p.text? s words = if s' = s then some text else given? s words := by
      rw [text?, hwaiting]
      rfl
    rw [htext]
    exact hadds.carries s _

/-- A word takes its part of what is given for a setting. -/
theorem step_carries (h : p.step (.ofString word) = .ok p') (s : Setting) (rest : List String) :
    Carries s p.known (p.text? s (word :: rest)) p'.known (p'.text? s rest) := by
  rcases step_cases h with ⟨s', text, hplain, hwaiting, rfl⟩ | ⟨s', value, hlong, h⟩
  · obtain ⟨rfl, hother⟩ := ofString_eq_plain hplain
    refine Or.inl ⟨rfl, ?_⟩
    rw [text?, text?, hwaiting, given?_cons_other hother]
    rfl
  · obtain ⟨known, hsettle, h⟩ := option_cases h
    refine (settle_carries hsettle s (word :: rest)).trans ?_
    rcases h with ⟨text, rfl, hadds, hwaiting⟩ | ⟨rfl, hflag, hadds, hwaiting⟩ | ⟨rfl, hflag, rfl⟩
    · -- the text stands behind the equals sign
      obtain ⟨joined, hjoined, rfl⟩ : ∃ joined, some text = some (String.ofList joined) ∧
          word = String.ofList (("--" ++ s'.optionName).toList ++ '=' :: joined) := by
        simpa using ofString_eq_long hlong
      rw [text?_of_not_waiting hwaiting, given?_cons_joined, ← hjoined]
      exact hadds.carries s _
    · -- the option stands alone
      obtain rfl : word = "--" ++ s'.optionName := by simpa using ofString_eq_long hlong
      rw [text?_of_not_waiting hwaiting, given?_cons_alone, if_pos hflag]
      exact hadds.carries s _
    · -- the text is the next word
      obtain rfl : word = "--" ++ s'.optionName := by simpa using ofString_eq_long hlong
      refine Or.inl ⟨rfl, ?_⟩
      rw [given?_cons_alone, hflag]
      rfl

theorem run_carries {words : List String} (h : p.run words = .ok o) (s : Setting) :
    Carries s p.known (p.text? s words) o none := by
  fun_induction run p words with
  | case1 p => exact settle_carries h s []
  | case2 p =>
    have hgiven : given? s ["--"] = none := by cases s <;> decide
    rw [← hgiven]
    exact settle_carries h s ["--"]
  | case3 => cases h
  | case4 p word rest _ _ ih =>
    obtain ⟨p', hstep, hrest⟩ := exists_of_bind_eq_ok h
    exact (step_carries hstep s rest).trans (ih p' hrest)

end Partial

/-- The words of a command line say about a setting what is given for it. -/
theorem reads_ofWords {words : List String} (h : ofWords words = .ok o) (s : Setting) :
    s.Reads (given? s words) (o.value? s) := by
  have hnothing : ({} : Overrides).value? s = none := by cases s <;> rfl
  rcases Partial.run_carries h s with ⟨hvalue, htext⟩ | ⟨-, text, v, htext, hv, hvalue⟩
  · have hgiven : given? s words = none := htext.symm
    rw [hgiven]
    exact hvalue.trans hnothing
  · have hgiven : given? s words = some text := htext
    rw [hgiven]
    exact ⟨v, hv, hvalue⟩

/-! ## The environment -/

/-- The text that the environment gives for a setting. -/
def fromEnvironment? (s : Setting) (environment : List (String × String)) : Option String :=
  s.environmentName?.bind (environment.lookup ·)

/-- Fills the gap of one setting. -/
def fillOne (environment : List (String × String)) (o : Overrides) (s : Setting) :
    Except Halt Overrides :=
  match fromEnvironment? s environment with
  | some text => if o.has s then .ok o else o.put s text
  | none => .ok o

theorem fill_eq (o : Overrides) (environment : List (String × String)) :
    o.fill environment = Setting.all.foldlM (fillOne environment) o := rfl

theorem fillOne_cases {environment : List (String × String)}
    (h : fillOne environment o s = .ok o') :
    (o' = o ∧ (o.value? s = none → fromEnvironment? s environment = none)) ∨
      ∃ text, fromEnvironment? s environment = some text ∧ o.Adds s text o' := by
  unfold fillOne at h
  split at h
  · next text htext =>
    split at h
    · next hhas =>
      refine Or.inl ⟨(Except.ok.inj h).symm, fun hnone => ?_⟩
      rw [← isSome_value?, hnone] at hhas
      cases hhas
    · next hhas =>
      exact Or.inr ⟨text, htext, value?_eq_none (Bool.eq_false_iff.2 hhas), put_eq_ok h⟩
  · next htext => exact Or.inl ⟨(Except.ok.inj h).symm, fun _ => htext⟩

/-- What is known already, and what is not looked for, stays as it is. -/
theorem value?_foldlM_fillOne {environment : List (String × String)} {settings : List Setting}
    (h : settings.foldlM (fillOne environment) o = .ok o')
    (hs : s ∈ settings → o.value? s ≠ none) : o'.value? s = o.value? s := by
  induction settings generalizing o with
  | nil =>
    obtain rfl := Except.ok.inj h
    rfl
  | cons a rest ih =>
    rw [List.foldlM_cons] at h
    obtain ⟨o₁, hone, hrest⟩ := exists_of_bind_eq_ok h
    have hkept : o₁.value? s = o.value? s := by
      rcases fillOne_cases hone with ⟨rfl, -⟩ | ⟨text, -, hnone, v, -, hvalue⟩
      · rfl
      · have hne : s ≠ a := by
          rintro rfl
          exact hs List.mem_cons_self hnone
        rw [hvalue, if_neg hne]
    rw [← hkept]
    apply ih hrest
    intro hmem
    rw [hkept]
    exact hs (List.mem_cons_of_mem a hmem)

/-- A gap is filled with what the environment gives. -/
theorem reads_foldlM_fillOne {environment : List (String × String)} {settings : List Setting}
    (hd : settings.Nodup) (h : settings.foldlM (fillOne environment) o = .ok o')
    (hs : s ∈ settings) (hnone : o.value? s = none) :
    s.Reads (fromEnvironment? s environment) (o'.value? s) := by
  induction settings generalizing o with
  | nil => cases hs
  | cons a rest ih =>
    obtain ⟨ha, hrest⟩ := List.nodup_cons.1 hd
    rw [List.foldlM_cons] at h
    obtain ⟨o₁, hone, hfold⟩ := exists_of_bind_eq_ok h
    rcases List.mem_cons.1 hs with rfl | hs
    · -- the others leave alone what was filled in first
      rw [value?_foldlM_fillOne hfold (fun hmem => absurd hmem ha)]
      rcases fillOne_cases hone with ⟨rfl, htext⟩ | ⟨text, htext, -, v, hv, hvalue⟩
      · rw [htext hnone]
        exact hnone
      · rw [htext, hvalue, if_pos rfl]
        exact ⟨v, hv, rfl⟩
    · apply ih hrest hfold hs
      rcases fillOne_cases hone with ⟨rfl, -⟩ | ⟨text, -, -, v, -, hvalue⟩
      · exact hnone
      · have hne : s ≠ a := fun he => ha (he ▸ hs)
        rw [hvalue, if_neg hne, hnone]

end Overrides

end HamlServer
