import HamlServer.Proofs.Text.Cut
import HamlServer.Proofs.Text.Lines
import HamlServer.Proofs.Text.Word
import HamlServer.Rails.Partial

/-!
# The locals that a partial declares

A partial declares its locals in a comment: their names, and behind the colon of a name its default.
The reader takes what stands in front of the first closing parenthesis and cuts it at every comma,
wherever they stand.  So no default that it gives holds either of them, and a declaration is read as
it was written exactly if no default holds one.

* `plain_of_mem_parseLocals`: what no default holds that is read.
* `readLocals_declared`: what is read of locals that hold neither.
* `localsOf_declaration`: when the locals of a partial are those that it declares.
-/

namespace HamlServer.Rails

open Text

variable {l : PartialLocal} {ls : List PartialLocal} {s : List Char}

/-! ## Declarations -/

/-- A local as a declaration gives it. -/
def declareLocal (l : PartialLocal) : List Char :=
  l.name.toList ++ ':' :: match l.default with
    | none => []
    | some default => ' ' :: default.toList

/-- The comment that declares locals. -/
def declaration (ls : List PartialLocal) : List Char :=
  "-# locals: (".toList ++ (List.intercalate ", ".toList (ls.map declareLocal) ++ [')'])

/-- A text that begins like a declaration. -/
def OpensDeclaration (s : List Char) : Prop :=
  ∃ gap r, isBlankText gap = true ∧ s = "-#".toList ++ (gap ++ ("locals:".toList ++ r))

/-- A local that can be declared: an identifier, with no default or one that stands on one line and
has no white space around it. -/
structure Declarable (l : PartialLocal) : Prop where
  name_ne : l.name ≠ ""
  name_word : ∀ c ∈ l.name.toList, isWordChar c = true
  default_ne : l.default ≠ some ""
  default_trimmed : ∀ d ∈ l.default, Trimmed d.toList
  default_line : ∀ d ∈ l.default, '\n' ∉ d.toList

/-- A local whose default holds no comma and no closing parenthesis. -/
def Plain (l : PartialLocal) : Prop := ∀ d ∈ l.default, ',' ∉ d.toList ∧ ')' ∉ d.toList

instance : DecidablePred Plain := fun l =>
  inferInstanceAs (Decidable (∀ d ∈ l.default, ',' ∉ d.toList ∧ ')' ∉ d.toList))

/-- The locals in a text that begins behind the opening parenthesis. -/
def readLocals (s : List Char) : List PartialLocal :=
  ((s.takeWhile (· != ')')).splitOn ',').filterMap parseLocal?

/-! ## What is read is plain -/

theorem mem_of_mem_trim {c : Char} (h : c ∈ trim s) : c ∈ s := by
  obtain ⟨b, -, hb⟩ := exists_trimEnd_append (trimStart s)
  have hstart : c ∈ trimStart s := by
    rw [← hb]
    exact List.mem_append_left b h
  exact (List.dropWhile_sublist isBlank).mem hstart

theorem mem_of_parseLocal? (h : parseLocal? s = some l) {d : String} (hd : d ∈ l.default) {c : Char}
    (hc : c ∈ d.toList) : c ∈ s := by
  rw [parseLocal?] at h
  split at h
  next name default hcut =>
  split at h
  · cases h
  · obtain rfl := Option.some.inj h
    split at hd
    · cases hd
    · obtain rfl : String.ofList default = d := Option.some.inj hd
      rw [String.toList_ofList] at hc
      split at hcut
      · next name' default' hcut' =>
        obtain ⟨-, rfl⟩ := Prod.mk.inj hcut
        obtain ⟨hs, -⟩ := cutAt_eq_some hcut'
        have htrim : c ∈ trim s := by
          rw [hs]
          exact List.mem_append_right name' (List.mem_cons_of_mem ':' (mem_of_mem_trim hc))
        exact mem_of_mem_trim htrim
      · obtain ⟨-, rfl⟩ := Prod.mk.inj hcut
        cases hc

/-- What is read was cut at every comma and ended at a closing parenthesis. -/
theorem plain_of_mem_readLocals (h : l ∈ readLocals s) : Plain l := by
  obtain ⟨piece, hpiece, hread⟩ := List.mem_filterMap.1 h
  obtain ⟨hcomma, hsub⟩ := of_mem_splitOn hpiece
  intro d hd
  constructor
  · intro hc
    exact hcomma (mem_of_parseLocal? hread hd hc)
  · intro hc
    have hin := List.all_eq_true.1 List.all_takeWhile ')' (hsub (mem_of_parseLocal? hread hd hc))
    exact absurd hin (by decide)

theorem localsAt?_parenthesis (s : List Char) : localsAt? ("-# locals: (".toList ++ s) =
    if (s.takeWhile (· != ')')).isEmpty || (s.takeWhile (· != ')')).length == s.length then none
    else some (s.takeWhile (· != ')')) := rfl

/-! ## Plain locals are read -/

theorem Declarable.exists_name (h : Declarable l) : ∃ c r, l.name.toList = c :: r ∧
    isWordChar c = true := by
  obtain ⟨c, r, hname⟩ := List.exists_cons_of_ne_nil (l := l.name.toList)
    (fun hnil => h.name_ne (String.toList_eq_nil_iff.1 hnil))
  refine ⟨c, r, hname, h.name_word c ?_⟩
  rw [hname]
  exact List.mem_cons_self

theorem Declarable.notMem_name (h : Declarable l) {c : Char} (hc : isWordChar c = false) :
    c ∉ l.name.toList := by
  intro hmem
  rw [h.name_word c hmem] at hc
  cases hc

theorem Declarable.trimmed_name (h : Declarable l) : Trimmed l.name.toList := by
  obtain ⟨c, r, hname, hc⟩ := h.exists_name
  refine Or.inr ⟨?_, ?_⟩
  · rw [hname]
    exact startsInk_cons.2 (isBlank_of_isWordChar hc)
  · apply endsInk_of_forall
    · rw [hname]
      exact List.cons_ne_nil c r
    · exact fun x hx => isBlank_of_isWordChar (h.name_word x hx)

/-- The text of a default is not empty, and has no white space around it. -/
theorem Declarable.default_ink (h : Declarable l) {d : String} (hd : l.default = some d) :
    d.toList ≠ [] ∧ StartsInk d.toList ∧ EndsInk d.toList := by
  have hne : d.toList ≠ [] := by
    intro hnil
    exact h.default_ne (by rw [hd, String.toList_eq_nil_iff.1 hnil])
  exact ⟨hne, (h.default_trimmed d hd).resolve_left hne⟩

theorem Declarable.trimmed_declareLocal (h : Declarable l) : Trimmed (declareLocal l) := by
  obtain ⟨c, r, hname, hc⟩ := h.exists_name
  refine Or.inr ⟨?_, ?_⟩
  · rw [declareLocal, hname]
    exact startsInk_cons.2 (isBlank_of_isWordChar hc)
  · rw [declareLocal]
    apply EndsInk.append
    cases hd : l.default with
    | none => exact ⟨':', rfl, by decide⟩
    | some d => exact (h.default_ink hd).2.2.append [':', ' ']

/-- What is read of a name and a value with a colon between them. -/
theorem parseLocal?_of_trim {name value : List Char} (htrim : trim s = name ++ ':' :: value)
    (hcolon : ':' ∉ name) (hne : name ≠ []) (hname : trim name = name) :
    parseLocal? s = some ⟨String.ofList name,
      if (trim value).isEmpty then none else some (String.ofList (trim value))⟩ := by
  have hempty : name.isEmpty = false := List.isEmpty_eq_false_iff.2 hne
  rw [parseLocal?]
  simp only [htrim, cutAt_append hcolon, hname, hempty, Bool.false_eq_true, if_false]

/-- A local is read as it was declared, with any white space in front. -/
theorem Declarable.parseLocal?_declareLocal (h : Declarable l) (gap : List Char)
    (hgap : isBlankText gap = true) : parseLocal? (gap ++ declareLocal l) = some l := by
  have htrim : trim (gap ++ declareLocal l) = declareLocal l := by
    rw [← List.append_nil (gap ++ declareLocal l)]
    exact h.trimmed_declareLocal.trim_between hgap rfl
  have hcolon : ':' ∉ l.name.toList := h.notMem_name (by decide)
  have hname : trim l.name.toList = l.name.toList := by
    have := h.trimmed_name.trim_between (a := []) (b := []) rfl rfl
    rwa [List.nil_append, List.append_nil] at this
  have hne : l.name.toList ≠ [] := by
    obtain ⟨c, r, hcons, -⟩ := h.exists_name
    rw [hcons]
    exact List.cons_ne_nil c r
  rw [parseLocal?_of_trim htrim hcolon hne hname, String.ofList_toList]
  cases hd : l.default with
  | none =>
    show some (PartialLocal.mk l.name none) = some l
    rw [← hd]
  | some d =>
    obtain ⟨hdne, hink⟩ := h.default_ink hd
    have hdtrim : trim (' ' :: d.toList) = d.toList := by
      have := Trimmed.trim_between (a := [' ']) (b := []) (Or.inr hink) rfl rfl
      rwa [List.append_nil] at this
    show some (PartialLocal.mk l.name (if (trim (' ' :: d.toList)).isEmpty then none
      else some (String.ofList (trim (' ' :: d.toList))))) = some l
    rw [hdtrim, if_neg (by simpa using hdne), String.ofList_toList, ← hd]

/-- A plain local is declared without a comma and without a closing parenthesis. -/
theorem Declarable.notMem_declareLocal (h : Declarable l) (hplain : Plain l) {c : Char}
    (hc : c = ',' ∨ c = ')') : c ∉ declareLocal l := by
  have hname : c ∉ l.name.toList := h.notMem_name (by rcases hc with rfl | rfl <;> decide)
  rw [declareLocal, List.mem_append, not_or]
  refine ⟨hname, ?_⟩
  cases hd : l.default with
  | none => rcases hc with rfl | rfl <;> simp
  | some d =>
    obtain ⟨hcomma, hclose⟩ := hplain d hd
    rcases hc with rfl | rfl
    · simpa using hcomma
    · simpa using hclose

/-- The items of a list with a comma and a space between them, each but the first taken with its
space, have a comma between them. -/
theorem intercalate_comma_space (a : List Char) (as : List (List Char)) :
    List.intercalate ", ".toList (a :: as) = List.intercalate [','] (a :: as.map (' ' :: ·)) := by
  induction as generalizing a with
  | nil => rfl
  | cons b as ih =>
    have hspace : List.intercalate [','] ((' ' :: b) :: as.map (' ' :: ·)) =
        ' ' :: List.intercalate [','] (b :: as.map (' ' :: ·)) := by
      cases as with
      | nil => simp
      | cons b' as => simp [List.intercalate_cons_cons]
    rw [List.map_cons, List.intercalate_cons_cons, List.intercalate_cons_cons, ih b, hspace,
      List.append_assoc, List.append_assoc]
    rfl

/-- What is read of plain locals is what was declared. -/
theorem readLocals_declared (hls : ∀ l ∈ ls, Declarable l) (hplain : ∀ l ∈ ls, Plain l)
    (hne : ls ≠ []) (more : List Char) :
    readLocals (List.intercalate ", ".toList (ls.map declareLocal) ++ ')' :: more) = ls := by
  obtain ⟨l, ls, rfl⟩ := List.exists_cons_of_ne_nil hne
  rw [List.forall_mem_cons] at hls hplain
  have hcomma : ∀ piece ∈ declareLocal l :: (ls.map declareLocal).map (' ' :: ·), ',' ∉ piece := by
    rw [List.forall_mem_cons]
    refine ⟨hls.1.notMem_declareLocal hplain.1 (Or.inl rfl), ?_⟩
    intro piece hpiece
    rw [List.map_map, List.mem_map] at hpiece
    obtain ⟨l', hl', rfl⟩ := hpiece
    exact List.not_mem_cons_of_ne_of_not_mem (by decide)
      ((hls.2 l' hl').notMem_declareLocal (hplain.2 l' hl') (Or.inl rfl))
  have hclose : ∀ c ∈ List.intercalate ", ".toList ((l :: ls).map declareLocal),
      (c != ')') = true := by
    intro c hc
    rw [bne_iff_ne]
    rintro rfl
    rcases mem_intercalate hc with hc | ⟨item, hitem, hc⟩
    · exact absurd hc (by decide)
    · obtain ⟨l', hl', rfl⟩ := List.mem_map.1 hitem
      have hdecl := List.forall_mem_cons.2 hls l' hl'
      exact hdecl.notMem_declareLocal (List.forall_mem_cons.2 hplain l' hl') (Or.inr rfl) hc
  have hstop : (')' :: more).takeWhile (· != ')') = [] := List.takeWhile_cons_of_neg (by decide)
  rw [readLocals, List.takeWhile_append_of_pos hclose, hstop, List.append_nil, List.map_cons,
    intercalate_comma_space, List.splitOn_intercalate ',' hcomma (List.cons_ne_nil _ _)]
  have hfirst : parseLocal? (declareLocal l) = some l := hls.1.parseLocal?_declareLocal [] rfl
  have hrest : ((ls.map declareLocal).map (' ' :: ·)).filterMap parseLocal? = ls := by
    rw [List.map_map, List.filterMap_map]
    conv_rhs => rw [← List.filterMap_some (l := ls)]
    apply List.filterMap_congr
    intro l' hl'
    exact (hls.2 l' hl').parseLocal?_declareLocal [' '] rfl
  rw [List.filterMap_cons_some hfirst, hrest]

/-! ## The line of the declaration -/

theorem opensDeclaration_of_localsAt? {inner : List Char} (h : localsAt? s = some inner) :
    OpensDeclaration s := by
  rw [localsAt?, Option.bind_eq_bind, Option.bind_eq_some_iff] at h
  obtain ⟨r, hr, h⟩ := h
  obtain ⟨r', hr', -⟩ := Option.bind_eq_some_iff.1 h
  refine ⟨leading r, r', isBlankText_leading r, ?_⟩
  rw [← dropStart?_eq_some_iff.1 hr', leading_append_trimStart]
  exact dropStart?_eq_some_iff.1 hr

/-- Where no line can be matched, nothing is found. -/
theorem findLine_eq_none {α : Type} {matcher : List Char → Option α} {lines : List (List Char)}
    (h : ∀ i < lines.length, matcher (joinLines (lines.drop i)) = none) :
    findLine matcher lines = none := by
  induction lines with
  | nil => rfl
  | cons line lines ih =>
    have hfirst : matcher (joinLines (line :: lines)) = none := h 0 (Nat.succ_pos _)
    rw [findLine, hfirst]
    exact ih fun i hi => h (i + 1) (Nat.succ_lt_succ hi)

/-- Where one line alone can be matched, what is found is found there. -/
theorem findLine_eq {α : Type} {matcher : List Char → Option α} {lines : List (List Char)} {k : Nat}
    (hk : k < lines.length)
    (h : ∀ i < lines.length, i ≠ k → matcher (joinLines (lines.drop i)) = none) :
    findLine matcher lines = matcher (joinLines (lines.drop k)) := by
  induction lines generalizing k with
  | nil => exact absurd hk (Nat.not_lt_zero k)
  | cons line lines ih =>
    rw [findLine]
    cases k with
    | zero =>
      have hrest : findLine matcher lines = none :=
        findLine_eq_none fun i hi => h (i + 1) (Nat.succ_lt_succ hi) (Nat.succ_ne_zero i)
      rw [hrest, List.drop_zero]
      cases matcher (joinLines (line :: lines)) <;> rfl
    | succ k =>
      have hfirst : matcher (joinLines (line :: lines)) = none :=
        h 0 (Nat.succ_pos _) (Nat.succ_ne_zero k).symm
      rw [hfirst]
      refine ih (Nat.lt_of_succ_lt_succ hk) fun i hi hne => ?_
      exact h (i + 1) (Nat.succ_lt_succ hi) fun he => hne (Nat.succ.inj he)

theorem exists_joinLines_cons (line : List Char) (lines : List (List Char)) :
    ∃ more, joinLines (line :: lines) = line ++ more := by
  cases lines with
  | nil => exact ⟨[], by rw [joinLines_singleton, List.append_nil]⟩
  | cons line' lines => exact ⟨_, joinLines_cons_cons line line' lines⟩

/-- The locals of what a line and those after it declare. -/
def localsAt (s : List Char) : List PartialLocal :=
  match localsAt? s with
  | none => []
  | some inner => (inner.splitOn ',').filterMap parseLocal?

/-- A parenthesis that is closed somewhere is not read up to the end. -/
theorem length_takeWhile_ne (h : ')' ∈ s) : (s.takeWhile (· != ')')).length ≠ s.length := by
  intro hlen
  have hall : s.takeWhile (· != ')') = s :=
    (List.takeWhile_prefix (· != ')')).eq_of_length hlen
  rw [← hall] at h
  exact absurd (List.all_eq_true.1 List.all_takeWhile ')' h) (by decide)

/-- Behind an opening parenthesis that is closed somewhere the locals are read, if something is in
it. -/
theorem localsAt_parenthesis (h : ')' ∈ s) : localsAt ("-# locals: (".toList ++ s) =
    if s.takeWhile (· != ')') = [] then [] else readLocals s := by
  rw [localsAt, localsAt?_parenthesis]
  have hlen : ((s.takeWhile (· != ')')).length == s.length) = false :=
    beq_false_of_ne (length_takeWhile_ne h)
  rw [hlen, Bool.or_false]
  by_cases hempty : s.takeWhile (· != ')') = []
  · rw [if_pos hempty, if_pos (List.isEmpty_iff.2 hempty)]
  · rw [if_neg hempty, if_neg (mt List.isEmpty_iff.1 hempty)]
    rfl

/-- A declaration, with anything behind it, is read as it was written exactly if its locals are
plain. -/
theorem localsAt_declaration (hls : ∀ l ∈ ls, Declarable l) (more : List Char) :
    localsAt (declaration ls ++ more) = ls ↔ ∀ l ∈ ls, Plain l := by
  have htext : declaration ls ++ more = "-# locals: (".toList ++
      (List.intercalate ", ".toList (ls.map declareLocal) ++ ([')'] ++ more)) := by
    unfold declaration
    exact (List.append_assoc _ _ _).trans (congrArg (_ ++ ·) (List.append_assoc _ _ _))
  rw [htext]
  generalize hs : List.intercalate ", ".toList (ls.map declareLocal) ++ ([')'] ++ more) = s
  have hclosed : ')' ∈ s := by
    rw [← hs]
    exact List.mem_append_right _ List.mem_cons_self
  rw [localsAt_parenthesis hclosed]
  constructor
  · intro h l hl
    by_cases hempty : s.takeWhile (· != ')') = []
    · rw [if_pos hempty] at h
      rw [← h] at hl
      cases hl
    · rw [if_neg hempty] at h
      rw [← h] at hl
      exact plain_of_mem_readLocals hl
  · intro hplain
    cases ls with
    | nil =>
      subst hs
      exact if_pos (List.takeWhile_cons_of_neg (by decide))
    | cons l ls =>
      have hread : readLocals s = l :: ls := by
        rw [← hs]
        exact readLocals_declared hls hplain (List.cons_ne_nil l ls) more
      rw [if_neg, hread]
      intro hempty
      -- an empty parenthesis would declare nothing
      rw [readLocals, hempty] at hread
      cases hread

theorem OpensDeclaration.head? (h : OpensDeclaration s) : s.head? = some '-' := by
  obtain ⟨gap, r, -, rfl⟩ := h
  rfl

theorem parseLocals_eq {header : List (List Char)} {k : Nat} (hk : k < header.length)
    (h : ∀ i < header.length, i ≠ k → ¬ OpensDeclaration (joinLines (header.drop i))) :
    parseLocals header = localsAt (joinLines (header.drop k)) := by
  have hnone : ∀ i < header.length, i ≠ k → localsAt? (joinLines (header.drop i)) = none := by
    intro i hi hne
    rw [Option.eq_none_iff_forall_ne_some]
    intro inner hinner
    exact h i hi hne (opensDeclaration_of_localsAt? hinner)
  rw [parseLocals, findLine_eq hk hnone]
  rfl

/-- **A declaration is read as it was written exactly if no default in it holds a comma or a closing
parenthesis.**  The declaration may be any of the first lines of a partial, with anything behind it
on its line, as long as no other of these lines begins like one. -/
theorem localsOf_declaration (ls : List PartialLocal) (hls : ∀ l ∈ ls, Declarable l)
    (text : String) (k : Nat) (hk : k < headerLines) (tail : List Char)
    (hline : (lines text.toList)[k]? = some (declaration ls ++ tail))
    (hother : ∀ i < headerLines, i ≠ k →
      ¬ OpensDeclaration (joinLines (((lines text.toList).take headerLines).drop i))) :
    localsOf (Utf8.encode text) = ls ↔ ∀ l ∈ ls, Plain l := by
  obtain ⟨hlt, hget⟩ := List.getElem?_eq_some_iff.1 hline
  have hheader : k < ((lines text.toList).take headerLines).length := by
    rw [List.length_take]
    omega
  have hother' : ∀ i < ((lines text.toList).take headerLines).length, i ≠ k →
      ¬ OpensDeclaration (joinLines (((lines text.toList).take headerLines).drop i)) := by
    intro i hi
    rw [List.length_take] at hi
    exact hother i (by omega)
  have hdrop : ((lines text.toList).take headerLines).drop k =
      (declaration ls ++ tail) :: ((lines text.toList).take headerLines).drop (k + 1) := by
    rw [List.drop_eq_getElem_cons hheader, List.getElem_take, hget]
  obtain ⟨more, hmore⟩ := exists_joinLines_cons (declaration ls ++ tail)
    (((lines text.toList).take headerLines).drop (k + 1))
  rw [localsOf, Utf8.decode?_encode]
  show parseLocals ((lines text.toList).take headerLines) = ls ↔ _
  rw [parseLocals_eq hheader hother', hdrop, hmore, List.append_assoc]
  exact localsAt_declaration hls _

/-- A declaration in the second line, behind a title, with a default that is quoted. -/
theorem localsOf_declaration_second : localsOf (Utf8.encode
    "%h1 Title\n-# locals: (user:, submit: 'Save') -- a form\n") =
      [⟨"user", none⟩, ⟨"submit", some "'Save'"⟩] := by
  have hdeclarable : ∀ l ∈ [PartialLocal.mk "user" none, ⟨"submit", some "'Save'"⟩],
      Declarable l := by
    rw [List.forall_mem_cons, List.forall_mem_singleton]
    constructor
    · exact ⟨by decide, List.all_eq_true.1 (by decide), by decide, by decide, by decide⟩
    · exact ⟨by decide, List.all_eq_true.1 (by decide), by decide, by decide, by decide⟩
  have hfirst : ∀ i < headerLines, i ≠ 1 → (joinLines (((lines
      "%h1 Title\n-# locals: (user:, submit: 'Save') -- a form\n".toList).take
        headerLines).drop i)).head? ≠ some '-' := by
    decide
  exact (localsOf_declaration _ hdeclarable _ 1 (by decide) " -- a form".toList (by decide)
    fun i hi hne hopens => hfirst i hi hne hopens.head?).2 (by decide)

/-- The brackets around a list do not keep its comma. -/
theorem not_localsOf_declaration_list :
    Declarable ⟨"items", some "[1, 2]"⟩ ∧
      Utf8.encode "-# locals: (items: [1, 2])\n" =
        Utf8.encode (String.ofList (declaration [⟨"items", some "[1, 2]"⟩] ++ ['\n'])) ∧
      localsOf (Utf8.encode "-# locals: (items: [1, 2])\n") =
        [⟨"items", some "[1"⟩, ⟨"2]", none⟩] := by
  refine ⟨?_, ?_, ?_⟩
  · exact ⟨by decide, List.all_eq_true.1 (by decide), by decide, by decide, by decide⟩
  · decide
  · decide

end HamlServer.Rails
