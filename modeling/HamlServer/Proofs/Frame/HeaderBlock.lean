import HamlServer.Proofs.Frame.RoundTrip
import HamlServer.Proofs.Json.Grammar
import HamlServer.Proofs.Json.Meaning
import HamlServer.Proofs.Text.Cut
import HamlServer.Proofs.Text.Ink

/-!
# The grammar of frames

A header block by its lines: the last of them is the first one that is blank, and the last one that
gives a length decides.  A frame is such a block with so many octets behind it that spell a JSON
text.  This is all that is ever read; anything else, but for the empty stream, is an error.

* `lengthOf_eq_ok_iff`: the lines that give a length.
* `header_eq_block_iff`: the blocks that are read.
* `next_grammar`: the frames that are read.
-/

namespace HamlServer.Frame

open Text

variable {line name value : List Char} {n : Nat}

/-! ## Lines that give a length -/

/-- A header line that gives the length: its name does, and the value stands behind the first
colon. -/
def LengthLine (line value : List Char) : Prop :=
  ∃ name, line = name ++ ':' :: value ∧ ':' ∉ name ∧
    (trim name).map Char.toLower = "content-length".toList

/-- A value that spells a length: digits, perhaps behind one plus sign, of a number that fits a word,
with any white space around. -/
def SpellsLength (value : List Char) (n : Nat) : Prop :=
  ∃ plus ds, trim value = plus ++ ds ∧ (plus = [] ∨ plus = ['+']) ∧ ds ≠ [] ∧
    (∀ c ∈ ds, c.isDigit = true) ∧ ofDigits 10 (ds.map digitValue) = n ∧ n < twoPow 64

theorem spellsLength_iff : SpellsLength value n ↔ word? (trim value) = some n :=
  word?_eq_some_iff.symm

/-- White space around a line does not count. -/
theorem lengthOf_append_append {a b : List Char} (ha : isBlankText a = true) (line : List Char)
    (hb : isBlankText b = true) : lengthOf (a ++ line ++ b) = lengthOf line := by
  have hcolon {s : List Char} (h : isBlankText s = true) : ':' ∉ s := by
    intro hc
    exact absurd (List.all_eq_true.1 h ':' hc) (by decide)
  rcases cutAt_cases ':' line with ⟨hline, hcut⟩ | ⟨name, value, rfl, hname, hcut⟩
  · have hno : ':' ∉ a ++ line ++ b := by
      simp only [List.mem_append, not_or]
      exact ⟨⟨hcolon ha, hline⟩, hcolon hb⟩
    rw [lengthOf, lengthOf, hcut, cutAt_eq_none hno]
  · have hno : ':' ∉ a ++ name := by
      rw [List.mem_append, not_or]
      exact ⟨hcolon ha, hname⟩
    have hparts : a ++ (name ++ ':' :: value) ++ b = (a ++ name) ++ ':' :: (value ++ b) := by
      simp only [List.append_assoc, List.cons_append]
    have htrimname : trim (a ++ name) = trim name := by
      have := trim_append_append ha name (b := []) rfl
      rwa [List.append_nil] at this
    have htrimvalue : trim (value ++ b) = trim value := trim_append_append (a := []) rfl value hb
    rw [lengthOf, lengthOf, hparts, cutAt_append hno, hcut]
    simp only [htrimname, htrimvalue]

theorem lengthOf_eq (hname : ':' ∉ name) (value : List Char) : lengthOf (name ++ ':' :: value) =
    if (trim name).map Char.toLower = "content-length".toList then
      match word? (trim value) with
      | some n => .ok (some n)
      | none => .error (.badLength (trim value))
    else .ok none := by
  rw [lengthOf, cutAt_append hname]
  rfl

theorem lengthLine_append_iff (hname : ':' ∉ name) (v : List Char) :
    LengthLine (name ++ ':' :: v) value ↔
      v = value ∧ (trim name).map Char.toLower = "content-length".toList := by
  constructor
  · rintro ⟨name', heq, hname', hlower⟩
    have hcut := cutAt_append hname v
    rw [heq, cutAt_append hname'] at hcut
    obtain ⟨rfl, rfl⟩ := Prod.mk.inj (Option.some.inj hcut)
    exact ⟨rfl, hlower⟩
  · rintro ⟨rfl, hlower⟩
    exact ⟨name, rfl, hname, hlower⟩

theorem lengthOf_trim (line : List Char) : lengthOf (trim line) = lengthOf line := by
  obtain ⟨a, b, ha, hb, hline⟩ := exists_trim_between line
  conv_rhs => rw [hline]
  exact (lengthOf_append_append ha (trim line) hb).symm

/-- What a line gives: nothing if it is another header, and a length that it spells. -/
theorem lengthOf_eq_ok_iff {m : Option Nat} : lengthOf line = .ok m ↔
    ((∀ value, ¬ LengthLine line value) ∧ m = none) ∨
      ∃ value n, LengthLine line value ∧ SpellsLength value n ∧ m = some n := by
  rcases cutAt_cases ':' line with ⟨hline, hcut⟩ | ⟨name, value, rfl, hname, -⟩
  · have hno : ∀ value, ¬ LengthLine line value := by
      rintro value ⟨name, rfl, -⟩
      exact hline (List.mem_append_right name List.mem_cons_self)
    rw [lengthOf, hcut]
    constructor
    · intro h
      exact Or.inl ⟨hno, (Except.ok.inj h).symm⟩
    · rintro (⟨-, rfl⟩ | ⟨value, n, hvalue, -⟩)
      · rfl
      · exact absurd hvalue (hno value)
  · have hvalue (v : List Char) : LengthLine (name ++ ':' :: value) v ↔
        value = v ∧ (trim name).map Char.toLower = "content-length".toList :=
      lengthLine_append_iff hname value
    rw [lengthOf_eq hname]
    by_cases hlower : (trim name).map Char.toLower = "content-length".toList
    · have hline : LengthLine (name ++ ':' :: value) value := (hvalue value).2 ⟨rfl, hlower⟩
      rw [if_pos hlower]
      constructor
      · intro h
        cases hword : word? (trim value) with
        | none =>
          rw [hword] at h
          cases h
        | some n =>
          rw [hword] at h
          exact Or.inr ⟨value, n, hline, spellsLength_iff.2 hword, (Except.ok.inj h).symm⟩
      · rintro (⟨hno, -⟩ | ⟨value', n, hline', hspells, rfl⟩)
        · exact absurd hline (hno value)
        · obtain ⟨rfl, -⟩ := (hvalue value').1 hline'
          rw [spellsLength_iff.1 hspells]
    · rw [if_neg hlower]
      constructor
      · intro h
        exact Or.inl ⟨fun v hv => hlower ((hvalue v).1 hv).2, (Except.ok.inj h).symm⟩
      · rintro (⟨-, rfl⟩ | ⟨value', n, hline', -⟩)
        · rfl
        · exact absurd ((hvalue value').1 hline').2 hlower

/-! ## Header lines -/

/-- The octets of a line with its line feed. -/
def lineOctets (line : List Char) : Bytes := Utf8.encode (String.ofList line ++ "\n")

variable {ended started : Bool} {length : Option Nat} {s rest : Bytes}

theorem lineOctets_ne_nil (line : List Char) : lineOctets line ≠ [] :=
  Utf8.encode_ne_nil (by simp)

theorem takeLine_lineOctets (h : '\n' ∉ line) (ended : Bool) (rest : Bytes) :
    takeLine ended (lineOctets line ++ rest) = some (lineOctets line, rest) :=
  takeLine_encode (by rwa [String.toList_ofList]) ended rest

/-- A line that was taken has one line feed, at its end. -/
theorem exists_of_takeLine {b : Bytes} (h : takeLine false s = some (b, rest)) :
    ∃ octets, (10 : UInt8) ∉ octets ∧ b = octets ++ [10] ∧ s = b ++ rest := by
  induction s generalizing b with
  | nil => cases h
  | cons x s ih =>
    rw [takeLine] at h
    split at h
    · next hx =>
      obtain ⟨rfl, rfl⟩ := Prod.mk.inj (Option.some.inj h)
      exact ⟨[], List.not_mem_nil, by rw [hx]; rfl, rfl⟩
    · next hx =>
      obtain ⟨⟨line, r⟩, hline, hpair⟩ := Option.map_eq_some_iff.1 h
      obtain ⟨rfl, rfl⟩ := Prod.mk.inj hpair
      obtain ⟨octets, hoctets, rfl, rfl⟩ := ih hline
      exact ⟨x :: octets, List.not_mem_cons_of_ne_of_not_mem (Ne.symm hx) hoctets, rfl, rfl⟩

/-- A line that was taken as text. -/
theorem exists_lineOctets {b : Bytes} {text : String} (h : takeLine false s = some (b, rest))
    (htext : Utf8.decode? b = some text) :
    ∃ line, '\n' ∉ line ∧ text = String.ofList line ++ "\n" ∧ s = lineOctets line ++ rest := by
  obtain ⟨octets, hoctets, rfl, rfl⟩ := exists_of_takeLine h
  rw [Utf8.decode?_eq_some_iff] at htext
  obtain ⟨line, hline, rfl⟩ := Utf8.exists_of_encode_eq_concat (c := '\n') (by decide) htext
  have htext' : text = String.ofList line ++ "\n" := by
    rw [hline]
    refine String.toList_inj.1 ?_
    rw [String.toList_append, String.toList_ofList, String.toList_ofList]
    rfl
  refine ⟨line, ?_, htext', ?_⟩
  · intro hc
    have hfeed : (10 : UInt8) ∈ String.utf8EncodeChar '\n' := List.mem_singleton.2 rfl
    exact hoctets (List.mem_flatMap.2 ⟨'\n', hc, hfeed⟩)
  · rw [lineOctets, ← htext', htext]

theorem trim_lineFeed (line : List Char) :
    trim (String.ofList line ++ "\n").toList = trim line := by
  rw [String.toList_append, String.toList_ofList]
  exact trim_append_append (a := []) rfl line rfl

/-- A header block by its first line. -/
theorem header_lineOctets (h : '\n' ∉ line) (ended started : Bool) (length : Option Nat)
    (rest : Bytes) :
    header ended started length (lineOctets line ++ rest) =
      if isBlankText line = true then
        match length with
        | some n => .block n rest
        | none => .failed .noLength
      else match lengthOf line with
        | .error e => .failed e
        | .ok n => header ended true (n.or length) rest := by
  rw [header_of_takeLine (takeLine_lineOctets h ended rest) (lineOctets_ne_nil line), lineOctets,
    Utf8.decode?_encode]
  by_cases hblank : isBlankText line = true
  · have htrim : trim (String.ofList line ++ "\n").toList = [] := by
      rw [trim_lineFeed, trim_eq_nil_iff]
      exact hblank
    exact (if_pos htrim).trans (if_pos hblank).symm
  · have htrim : trim (String.ofList line ++ "\n").toList ≠ [] := by
      rw [trim_lineFeed, ne_eq, trim_eq_nil_iff]
      exact hblank
    refine (if_neg htrim).trans ?_
    rw [if_neg hblank]
    cases hline : lengthOf line with
    | error e => rw [trim_lineFeed, lengthOf_trim, hline]
    | ok n => rw [trim_lineFeed, lengthOf_trim, hline]

/-! ## Header blocks -/

/-- What the lines of a block give, when `length` was given before: the last of them that gives a
length decides, and each that gives one spells it. -/
inductive Gives : Option Nat → List (List Char) → Nat → Prop where
  | nothing (n : Nat) : Gives (some n) [] n
  | other {length : Option Nat} {line : List Char} {lines : List (List Char)} {n : Nat}
      (other : ∀ value, ¬ LengthLine line value) (more : Gives length lines n) :
      Gives length (line :: lines) n
  | length {length : Option Nat} {line value : List Char} {lines : List (List Char)} {m n : Nat}
      (gives : LengthLine line value) (spells : SpellsLength value m)
      (more : Gives (some m) lines n) :
      Gives length (line :: lines) n

/-- The lines of a header block: none of them holds a line feed, and the last one alone is blank. -/
structure BlockLines (lines : List (List Char)) (blank : List Char) : Prop where
  one_line : ∀ line ∈ lines, '\n' ∉ line
  not_blank : ∀ line ∈ lines, isBlankText line = false
  blank_one_line : '\n' ∉ blank
  blank : isBlankText blank = true

variable {lines : List (List Char)} {blank : List Char}

theorem BlockLines.tail (h : BlockLines (line :: lines) blank) : BlockLines lines blank where
  one_line l hl := h.one_line l (List.mem_cons_of_mem line hl)
  not_blank l hl := h.not_blank l (List.mem_cons_of_mem line hl)
  blank_one_line := h.blank_one_line
  blank := h.blank

theorem BlockLines.cons (h : BlockLines lines blank) (hline : '\n' ∉ line)
    (hblank : isBlankText line = false) : BlockLines (line :: lines) blank where
  one_line := List.forall_mem_cons.2 ⟨hline, h.one_line⟩
  not_blank := List.forall_mem_cons.2 ⟨hblank, h.not_blank⟩
  blank_one_line := h.blank_one_line
  blank := h.blank

/-- A header block by its first line, which is not the last. -/
theorem BlockLines.header_cons (h : BlockLines (line :: lines) blank) (ended started : Bool)
    (length : Option Nat) (rest : Bytes) :
    header ended started length ((line :: lines).flatMap lineOctets ++ rest) =
      match lengthOf line with
      | .error e => .failed e
      | .ok n => header ended true (n.or length) (lines.flatMap lineOctets ++ rest) := by
  have hblank : ¬ isBlankText line = true := by
    rw [h.not_blank line List.mem_cons_self]
    exact Bool.false_ne_true
  rw [List.flatMap_cons, List.append_assoc,
    header_lineOctets (h.one_line line List.mem_cons_self), if_neg hblank]

/-- A block whose lines give a length is read. -/
theorem Gives.header_eq (h : Gives length lines n) (hlines : BlockLines lines blank)
    (ended started : Bool) (rest : Bytes) :
    header ended started length (lines.flatMap lineOctets ++ (lineOctets blank ++ rest)) =
      .block n rest := by
  induction h generalizing started with
  | nothing n =>
    rw [List.flatMap_nil, List.nil_append, header_lineOctets hlines.blank_one_line]
    exact if_pos hlines.blank
  | @other length line lines n other more ih =>
    have hline : lengthOf line = .ok none := lengthOf_eq_ok_iff.2 (Or.inl ⟨other, rfl⟩)
    rw [hlines.header_cons, hline]
    exact ih hlines.tail true
  | @length length line value lines m n gives spells more ih =>
    have hline : lengthOf line = .ok (some m) :=
      lengthOf_eq_ok_iff.2 (Or.inr ⟨value, m, gives, spells, rfl⟩)
    rw [hlines.header_cons, hline]
    exact ih hlines.tail true

/-- The lines of a block that was read give its length. -/
theorem exists_gives_of_header (h : header false started length s = .block n rest) :
    ∃ lines blank, BlockLines lines blank ∧ Gives length lines n ∧
      s = lines.flatMap lineOctets ++ (lineOctets blank ++ rest) := by
  fun_induction header false started length s with
  | case5 started s b line rest' htake text hd _ hblank m =>
    obtain ⟨rfl, rfl⟩ := Header.block.inj h
    obtain ⟨l, hl, rfl, rfl⟩ := exists_lineOctets htake hd
    have hblank : isBlankText l = true := by
      rw [← trim_eq_nil_iff, ← trim_lineFeed]
      exact hblank
    exact ⟨[], l, ⟨List.forall_mem_nil _, List.forall_mem_nil _, hl, hblank⟩, .nothing m, rfl⟩
  | case8 started length s b line rest' htake text hd _ hblank m hm ih =>
    obtain ⟨lines, blank, hlines, hgives, rfl⟩ := ih h
    obtain ⟨l, hl, rfl, rfl⟩ := exists_lineOctets htake hd
    have hblank : isBlankText l = false := by
      rw [Bool.eq_false_iff, ne_eq, ← trim_eq_nil_iff, ← trim_lineFeed]
      exact hblank
    have hline : lengthOf l = .ok m := by
      rw [← lengthOf_trim, ← trim_lineFeed]
      exact hm
    refine ⟨l :: lines, blank, hlines.cons hl hblank, ?_, ?_⟩
    · rcases lengthOf_eq_ok_iff.1 hline with ⟨hno, rfl⟩ | ⟨value, k, hvalue, hspells, rfl⟩
      · exact .other hno hgives
      · exact .length hvalue hspells hgives
    · rw [List.flatMap_cons, List.append_assoc]
  | _ => cases h

/-! ## Whole blocks -/

/-- The last of some lines that gives a length. -/
def LastLength (lines : List (List Char)) (n : Nat) : Prop :=
  ∃ before line value after, lines = before ++ line :: after ∧ LengthLine line value ∧
    SpellsLength value n ∧ ∀ later ∈ after, ∀ value, ¬ LengthLine later value

/-- A header block that gives a length: lines that are not blank and one that is, each with its line
feed.  Every line that gives a length spells it, and the last one of them decides. -/
def HeaderBlock (block : Bytes) (n : Nat) : Prop :=
  ∃ lines blank, block = (lines ++ [blank]).flatMap lineOctets ∧ BlockLines lines blank ∧
    (∀ line ∈ lines, ∀ value, LengthLine line value → ∃ m, SpellsLength value m) ∧
    LastLength lines n

theorem LengthLine.unique {value' : List Char} (h : LengthLine line value)
    (h' : LengthLine line value') : value = value' := by
  obtain ⟨name, rfl, hname, -⟩ := h
  exact ((lengthLine_append_iff hname value).1 h').1

theorem Gives.spells (h : Gives length lines n) :
    ∀ line ∈ lines, ∀ value, LengthLine line value → ∃ m, SpellsLength value m := by
  induction h with
  | nothing => exact List.forall_mem_nil _
  | other other _ ih =>
    exact List.forall_mem_cons.2 ⟨fun value hvalue => absurd hvalue (other value), ih⟩
  | length gives spells _ ih =>
    refine List.forall_mem_cons.2 ⟨fun value hvalue => ?_, ih⟩
    rw [← gives.unique hvalue]
    exact ⟨_, spells⟩

theorem LastLength.cons (h : LastLength lines n) (line : List Char) :
    LastLength (line :: lines) n := by
  obtain ⟨before, l, value, after, rfl, h⟩ := h
  exact ⟨line :: before, l, value, after, rfl, h⟩

theorem Gives.last (h : Gives length lines n) :
    (length = some n ∧ ∀ line ∈ lines, ∀ value, ¬ LengthLine line value) ∨ LastLength lines n := by
  induction h with
  | nothing n => exact Or.inl ⟨rfl, List.forall_mem_nil _⟩
  | @other length line lines n other _ ih =>
    rcases ih with ⟨rfl, hno⟩ | hlast
    · exact Or.inl ⟨rfl, List.forall_mem_cons.2 ⟨other, hno⟩⟩
    · exact Or.inr (hlast.cons line)
  | @length length line value lines m n gives spells _ ih =>
    rcases ih with ⟨hm, hno⟩ | hlast
    · rw [Option.some.inj hm] at spells
      exact Or.inr ⟨[], line, value, lines, rfl, gives, spells, hno⟩
    · exact Or.inr (hlast.cons line)

theorem gives_of_last
    (hspells : ∀ line ∈ lines, ∀ value, LengthLine line value → ∃ m, SpellsLength value m)
    (h : (length = some n ∧ ∀ line ∈ lines, ∀ value, ¬ LengthLine line value) ∨
      LastLength lines n) : Gives length lines n := by
  induction lines generalizing length with
  | nil =>
    rcases h with ⟨rfl, -⟩ | ⟨before, line, value, after, hlines, -⟩
    · exact .nothing n
    · exact absurd hlines.symm (List.append_ne_nil_of_right_ne_nil before (List.cons_ne_nil _ _))
  | cons line lines ih =>
    rw [List.forall_mem_cons] at hspells
    rcases h with ⟨rfl, hno⟩ | ⟨before, l, value, after, hlines, hvalue, hn, hafter⟩
    · rw [List.forall_mem_cons] at hno
      exact .other hno.1 (ih hspells.2 (Or.inl ⟨rfl, hno.2⟩))
    · cases before with
      | nil =>
        obtain ⟨rfl, rfl⟩ := List.cons.inj hlines
        exact .length hvalue hn (ih hspells.2 (Or.inl ⟨rfl, hafter⟩))
      | cons b before =>
        obtain ⟨rfl, hmore⟩ := List.cons.inj hlines
        have hlast : LastLength lines n := ⟨before, l, value, after, hmore, hvalue, hn, hafter⟩
        by_cases hline : ∃ value, LengthLine line value
        · obtain ⟨value', hvalue'⟩ := hline
          obtain ⟨m, hm⟩ := hspells.1 value' hvalue'
          exact .length hvalue' hm (ih hspells.2 (Or.inr hlast))
        · exact .other (not_exists.1 hline) (ih hspells.2 (Or.inr hlast))

/-- The blocks that are read. -/
theorem header_eq_block_iff : header false false none s = .block n rest ↔
    ∃ block, s = block ++ rest ∧ HeaderBlock block n := by
  constructor
  · intro h
    obtain ⟨lines, blank, hlines, hgives, rfl⟩ := exists_gives_of_header h
    refine ⟨_, ?_, lines, blank, rfl, hlines, hgives.spells, ?_⟩
    · rw [List.flatMap_append, List.flatMap_singleton, List.append_assoc]
    · exact hgives.last.resolve_left fun h => by cases h.1
  · rintro ⟨block, rfl, lines, blank, rfl, hlines, hspells, hlast⟩
    rw [List.flatMap_append, List.flatMap_singleton, List.append_assoc]
    exact (gives_of_last hspells (Or.inr hlast)).header_eq hlines false false rest

/-! ## Frames -/

/-- The frames that are read, by their octets. -/
theorem next_eq_frame_iff_block {message : Json} : next true s = .frame message rest ↔
    ∃ block body, s = block ++ (body ++ rest) ∧ HeaderBlock block body.length ∧
      body.length ≤ maxBody ∧ decodeBody body = some message := by
  constructor
  · intro h
    obtain ⟨octets, rfl, hoctets⟩ := exists_append_of_next h
    obtain ⟨n, body, hheader, hlong, hshort, hbody, hrest⟩ := next_eq_frame_iff.1 hoctets
    obtain ⟨block, rfl, hblock⟩ := header_eq_block_iff.1 hheader
    -- no octet is left, so the body is all that stands behind the block
    have hlen : body.length = n := Nat.le_antisymm (List.drop_eq_nil_iff.1 hrest) hshort
    rw [List.take_of_length_le (Nat.le_of_eq hlen)] at hbody
    subst hlen
    exact ⟨block, body, List.append_assoc .., hblock, hlong, hbody⟩
  · rintro ⟨block, body, rfl, hblock, hlong, hbody⟩
    have hheader : header false false none (block ++ (body ++ rest)) =
        .block body.length (body ++ rest) := header_eq_block_iff.2 ⟨block, rfl, hblock⟩
    refine next_of_next (next_eq_frame_iff.2 ⟨_, _, hheader, hlong, ?_, ?_, ?_⟩) true
    · rw [List.length_append]
      omega
    · rw [List.take_left]
      exact hbody
    · exact List.drop_left

/-- The bodies that spell a message. -/
theorem decodeBody_eq_some_iff {body : Bytes} {message : Json} : decodeBody body = some message ↔
    ∃ text w, body = Utf8.encode text ∧ Json.SpacedText w text.toList ∧
      w.toJson? Json.maxNesting = some message := by
  rw [decodeBody, Option.bind_eq_some_iff]
  constructor
  · rintro ⟨text, htext, hparse⟩
    obtain ⟨w, hw, hvalue⟩ := Option.bind_eq_some_iff.1 hparse
    exact ⟨text, w, (Utf8.decode?_eq_some_iff.1 htext).symm, Json.parse_eq_some_iff.1 hw, hvalue⟩
  · rintro ⟨text, w, rfl, hw, hvalue⟩
    refine ⟨text, Utf8.decode?_encode text, ?_⟩
    rw [Json.parse?, Json.parse_eq_some_iff.2 hw]
    exact hvalue

/-- Behind the first line of a block the end of the stream is an error. -/
theorem header_eq_closed (h : header true started length s = .closed) :
    started = false ∧ s = [] := by
  fun_induction header true started length s with
  | case3 started length s rest htake hstarted =>
    obtain ⟨rfl, hline | rfl⟩ := takeLine_cases htake
    · cases hline
    · exact ⟨Bool.eq_false_iff.2 hstarted, rfl⟩
  | case8 _ _ _ _ _ _ _ _ _ _ _ _ _ ih => exact absurd (ih h).1 Bool.noConfusion
  | _ => cases h

/-- The stream is at its end exactly if nothing is left. -/
theorem next_eq_closed_iff : next true s = .closed ↔ s = [] := by
  constructor
  · intro h
    cases hs : header true false none s with
    | closed => exact (header_eq_closed hs).2
    | more | failed =>
      rw [next, hs] at h
      cases h
    | block n body =>
      rw [next_of_block hs] at h
      repeat' split at h
      all_goals cases h
  · rintro rfl
    exact next_nil

/-- **The frames that are read.**  A stream has a frame at its front exactly if it begins with a
header block and with so many octets behind it as the block says, no more than the limit, which spell
a JSON text that has a value and is not nested too deeply.  What is left are the octets behind them.
The empty stream is at its end, and anything else is an error. -/
theorem next_grammar (s : Bytes) :
    (∀ rest, (∃ message, next true s = .frame message rest) ↔
      ∃ block body text w, s = block ++ (body ++ rest) ∧ HeaderBlock block body.length ∧
        body.length ≤ maxBody ∧ body = Utf8.encode text ∧ Json.SpacedText w text.toList ∧
        Json.NestedAtMost Json.maxNesting w ∧ Json.Meaningful w) ∧
    (next true s = .closed ↔ s = []) ∧
    (s ≠ [] → (∀ message rest, next true s ≠ .frame message rest) →
      ∃ e, next true s = .failed e) := by
  refine ⟨fun rest => ?_, next_eq_closed_iff, fun hne hno => ?_⟩
  · constructor
    · rintro ⟨message, h⟩
      obtain ⟨block, body, hs, hblock, hlong, hbody⟩ := next_eq_frame_iff_block.1 h
      obtain ⟨text, w, htext, hw, hvalue⟩ := decodeBody_eq_some_iff.1 hbody
      have hsome := (Json.Written.isSome_toJson?_iff Json.maxNesting w).1
        (Option.isSome_iff_exists.2 ⟨message, hvalue⟩)
      exact ⟨block, body, text, w, hs, hblock, hlong, htext, hw, hsome⟩
    · rintro ⟨block, body, text, w, hs, hblock, hlong, htext, hw, hsome⟩
      obtain ⟨message, hvalue⟩ := Option.isSome_iff_exists.1
        ((Json.Written.isSome_toJson?_iff Json.maxNesting w).2 hsome)
      exact ⟨message, next_eq_frame_iff_block.2 ⟨block, body, hs, hblock, hlong,
        decodeBody_eq_some_iff.2 ⟨text, w, htext, hw, hvalue⟩⟩⟩
  · cases h : next true s with
    | frame message rest => exact absurd h (hno message rest)
    | closed => exact absurd (next_eq_closed_iff.1 h) hne
    | more => exact absurd h (next_closed_ne_more s)
    | failed e => exact ⟨e, rfl⟩

/-! ## Bodies without a value -/

/-- The header that a frame is written with. -/
def lengthBlock (n : Nat) : Bytes := lineOctets (lengthLine n ++ ['\r']) ++ lineOctets ['\r']

theorem headerBlock_lengthBlock (h : n < twoPow 64) : HeaderBlock (lengthBlock n) n := by
  have hblank : takeLine false (lineOctets ['\r'] ++ []) = some (lineOctets ['\r'], []) :=
    takeLine_lineOctets (by decide) false []
  have hheader : header false false none (lengthBlock n) = .block n [] := by
    rw [lengthBlock, lineOctets, header_lengthLine h, ← List.append_nil (lineOctets ['\r'])]
    exact header_blank (lineOctets_ne_nil ['\r']) hblank rfl n
  obtain ⟨block, hs, hblock⟩ := header_eq_block_iff.1 hheader
  rw [List.append_nil] at hs
  rw [hs]
  exact hblock

/-- A body that spells no message is an error. -/
theorem next_of_badBody {block body : Bytes} (hblock : HeaderBlock block body.length)
    (hlong : body.length ≤ maxBody) (hbody : decodeBody body = none) (rest : Bytes) :
    next true (block ++ body ++ rest) = .failed .badBody := by
  have hheader : header false false none (block ++ body) = .block body.length body :=
    header_eq_block_iff.2 ⟨block, rfl, hblock⟩
  have hnext : next false (block ++ body) = .failed .badBody := by
    rw [next_of_block hheader, if_neg (Nat.not_lt.2 hlong), if_neg (Nat.lt_irrefl _),
      List.take_length, hbody]
  exact next_append_of_failed hnext true rest

/-- Two JSON texts that are no messages, though they stand behind a header that fits them and are not
nested at all: a numeral that is too large, and a lone half of a character. -/
theorem not_next_grammar_of_text :
    (∃ w, HeaderBlock (lengthBlock 5) 5 ∧ (Utf8.encode "1e309").length = 5 ∧
      Json.SpacedText w "1e309".toList ∧ Json.NestedAtMost 0 w ∧
        next true (lengthBlock 5 ++ Utf8.encode "1e309") = .failed .badBody) ∧
    (∃ w, HeaderBlock (lengthBlock 8) 8 ∧ (Utf8.encode "\"\\ud800\"").length = 8 ∧
      Json.SpacedText w "\"\\ud800\"".toList ∧ Json.NestedAtMost 0 w ∧
        next true (lengthBlock 8 ++ Utf8.encode "\"\\ud800\"") = .failed .badBody) := by
  constructor
  · have hblock : HeaderBlock (lengthBlock 5) (Utf8.encode "1e309").length :=
      headerBlock_lengthBlock (by decide)
    have hnext := next_of_badBody hblock (by decide) (by decide +kernel) []
    rw [List.append_nil] at hnext
    exact ⟨_, hblock, rfl, Json.parse_eq_some_iff.1 rfl, .number _, hnext⟩
  · have hblock : HeaderBlock (lengthBlock 8) (Utf8.encode "\"\\ud800\"").length :=
      headerBlock_lengthBlock (by decide)
    have hnext := next_of_badBody hblock (by decide) (by decide +kernel) []
    rw [List.append_nil] at hnext
    exact ⟨_, hblock, rfl, Json.parse_eq_some_iff.1 rfl, .string _, hnext⟩

end HamlServer.Frame
