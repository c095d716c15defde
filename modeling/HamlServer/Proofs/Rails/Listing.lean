import HamlServer.Proofs.Rails.Separator
import HamlServer.Proofs.Rails.Table
import HamlServer.Proofs.Text.Decimal
import HamlServer.Proofs.Text.Lines

/-!
# Listings are read back

A listing is printed from blocks, each a record of the texts of its fields.  Reading it gives the
table that a walk over the blocks builds up, whatever stands in the fields: bars, number signs,
colons and dashes are all left alone, as long as no field holds a separator or goes over a line.

* `blocks_print`: the separators that were printed are the ones that are found.
* `blockFields_body`: the fields of a block as it was printed.
* `foldl_blockRoutes`: the helper of the block before is carried along with the table.
* `parseListing_print`: the table of a printed listing.
-/

namespace HamlServer.Rails

open Text

/-! ## Printing -/

/-- A block of a listing, by the texts of its fields.  An empty text stands for a blank field. -/
structure Block where
  helper : String := ""
  verbs : List String := []
  uri : String := ""
  target : String := ""
  source : String := ""

namespace Block

/-- The labels of a block with the texts behind them; the verbs are parted by bars. -/
def fields (b : Block) : List (String × List Char) :=
  [("Prefix", b.helper.toList), ("Verb", List.intercalate ['|'] (b.verbs.map String.toList)),
    ("URI", b.uri.toList), ("Controller#Action", b.target.toList),
    ("Source Location", b.source.toList)]

/-- A label in the column of labels, with the bar behind it. -/
def labelColumn (label : String) : List Char :=
  label.toList ++ List.replicate (18 - label.length) ' ' ++ ['|', ' ']

/-- A field as a line, without its end. -/
def line (field : String × List Char) : List Char := labelColumn field.1 ++ field.2

/-- The lines of a block behind its separator. -/
def body (b : Block) : List Char := (b.fields.map line).flatMap (· ++ ['\n'])

/-- A block that can be printed: each text is a single line without white space around it and
without a separator in it, no verb is empty or holds a bar, and no verb comes twice. -/
structure Printable (b : Block) : Prop where
  single : ∀ f ∈ b.fields, '\n' ∉ f.2
  trimmed : ∀ f ∈ b.fields, Trimmed f.2
  whole : ∀ f ∈ b.fields, ¬ HoldsSeparator f.2
  verb : ∀ v ∈ b.verbs, v ≠ "" ∧ '|' ∉ v.toList
  once : b.verbs.Nodup

end Block

/-- The number of a block, as it stands in the brackets of its separator. -/
def routeLabel (n : Nat) : List Char := " Route ".toList ++ Nat.toDigits 10 n ++ [' ']

/-- The separator in front of the `n`-th block; `width` is the number of dashes at its end. -/
def separatorLine (n width : Nat) : List Char :=
  '-' :: '-' :: '[' :: (routeLabel n ++ ']' :: (List.replicate width '-' ++ ['\n']))

/-- Prints blocks, the first of them as the `n`-th. -/
def print (width : Nat → Nat) : (n : Nat) → List Block → List Char
  | _, [] => []
  | n, b :: bs => separatorLine n (width n) ++ (b.body ++ print width (n + 1) bs)

/-! ## The table of blocks -/

namespace Block

/-- The route that a block opens under a helper.  The controller is what stands in front of the
first number sign, the action what stands behind it. -/
def route (root : Option Path) (helper : String) (b : Block) : Route where
  helper := helper
  verbs := b.verbs
  uri := b.uri
  params := pathParams b.uri.toList
  controller := if b.target = "" then none
    else some (String.ofList (b.target.toList.takeWhile (· ≠ '#')))
  action := if '#' ∈ b.target.toList
    then some (String.ofList (b.target.toList.dropWhile (· ≠ '#')).tail) else none
  source := if b.source = "" then none else some (relativeSource root b.source)

/-- Takes a block in under a helper.  The first block of a helper opens its route, a later one only
adds the verbs that are not there yet. -/
def enter (root : Option Path) (helper : String) (b : Block) (table : List Route) : List Route :=
  if helper ∈ table.map (·.helper) then
    table.map fun r =>
      if r.helper = helper then { r with verbs := r.verbs ++ b.verbs.filter fun v => v ∉ r.verbs }
      else r
  else table ++ [b.route root helper]

/-- Walks over blocks with the helper of the last block that was kept and the routes so far.  A
block with a blank helper takes that of the last one; with none before it, it is dropped. -/
def walk (root : Option Path) : (last : Option String) → List Route → List Block → List Route
  | _, table, [] => table
  | last, table, b :: bs =>
    match if b.helper = "" then last else some b.helper with
    | none => walk root none table bs
    | some helper => walk root (some helper) (b.enter root helper table) bs

end Block

/-! ## Separators of a printed listing -/

theorem label_notMem_dash {label : String} (h : label ∈ labels) :
    '-' ∉ Block.labelColumn label := by
  revert label
  decide

/-- A label is followed by a bar or a number sign, so it closes no label of a separator. -/
theorem head?_dropWhile_line {field : String × List Char} (h : field.1 ∈ labels)
    (rest : List Char) :
    ((Block.line field ++ rest).dropWhile isLabelChar).head? ≠ some ']' := by
  have hcolumn : ∀ label ∈ labels, ((Block.labelColumn label).dropWhile isLabelChar) ≠ [] ∧
      ((Block.labelColumn label).dropWhile isLabelChar).head? ≠ some ']' := by decide
  obtain ⟨hne, hhead⟩ := hcolumn field.1 h
  obtain ⟨c, r, hc⟩ := List.exists_cons_of_ne_nil hne
  rw [hc] at hhead
  rw [Block.line, List.append_assoc, List.dropWhile_append, hc]
  exact hhead

theorem fields_labels (b : Block) : b.fields.map (·.1) = labels := rfl

theorem mem_labels {b : Block} {f : String × List Char} (h : f ∈ b.fields) : f.1 ∈ labels := by
  rw [← fields_labels b]
  exact List.mem_map_of_mem h

/-- No separator starts in lines whose texts hold none. -/
theorem uncut_lines {fs : List (String × List Char)} (hlabels : ∀ f ∈ fs, f.1 ∈ labels)
    (hwhole : ∀ f ∈ fs, ¬ HoldsSeparator f.2) {rest : List Char}
    (hrest : (rest.dropWhile isLabelChar).head? ≠ some ']') :
    Uncut ((fs.map Block.line).flatMap (· ++ ['\n'])) rest := by
  induction fs with
  | nil => trivial
  | cons f fs ih =>
    rw [List.forall_mem_cons] at hlabels hwhole
    have hnext : (((fs.map Block.line).flatMap (· ++ ['\n']) ++ rest).dropWhile
        isLabelChar).head? ≠ some ']' := by
      cases fs with
      | nil => exact hrest
      | cons g gs =>
        rw [List.map_cons, List.flatMap_cons, List.append_assoc, List.append_assoc]
        exact head?_dropWhile_line (hlabels.2 g List.mem_cons_self) _
    rw [List.map_cons, List.flatMap_cons, Block.line, List.append_assoc (Block.labelColumn f.1)]
    apply Uncut.append _ (ih hlabels.2 hwhole.2)
    apply Uncut.append _ (uncut_line hwhole.1 hnext)
    exact uncut_of_notMem (label_notMem_dash hlabels.1) _

/-- A printed listing is empty or starts with a dash. -/
theorem head?_print (width : Nat → Nat) (n : Nat) (bs : List Block) :
    ((print width n bs).dropWhile isLabelChar).head? ≠ some ']' := by
  cases bs with
  | nil => exact nofun
  | cons b bs =>
    show some '-' ≠ some ']'
    decide

theorem isLabelChar_of_isDigit {c : Char} (h : c.isDigit = true) : isLabelChar c = true := by
  have hword : isWordChar c = true := by
    have hlt : c.toNat < 0x80 := by
      have hc : 48 ≤ c.toNat ∧ c.toNat ≤ 57 := by
        simpa [Char.isDigit, UInt32.le_iff_toNat_le] using h
      omega
    rw [isWordChar_of_ascii hlt, isAsciiWordChar, Char.isAlphanum, h]
    simp
  rw [isLabelChar, hword, Bool.or_true]

theorem isLabelChar_of_mem_routeLabel (n : Nat) : ∀ c ∈ routeLabel n, isLabelChar c = true := by
  have hword : ∀ c ∈ " Route ".toList, isLabelChar c = true := List.all_eq_true.1 (by decide)
  intro c hc
  rcases List.mem_append.1 hc with hc | hc
  · rcases List.mem_append.1 hc with hc | hc
    · exact hword c hc
    · exact isLabelChar_of_isDigit (isDigit_of_mem_toDigits hc)
  · rw [List.mem_singleton.1 hc]
    rfl

/-- A separator that was printed is found, and goes up to the end of its line. -/
theorem separatorEnd?_separatorLine (n : Nat) {width : Nat} (hw : 0 < width) {rest : List Char}
    (hrest : ∀ c ∈ rest.head?, isBlank c = false) :
    separatorEnd? (separatorLine n width ++ rest) = some rest := by
  obtain ⟨k, rfl⟩ : ∃ k, width = k + 1 := ⟨width - 1, by omega⟩
  let back : List Char := List.replicate k '-' ++ '\n' :: rest
  have hs : separatorLine n (k + 1) ++ rest =
      '-' :: '-' :: '[' :: (routeLabel n ++ ']' :: '-' :: back) := by
    simp [separatorLine, back, List.replicate_succ]
  have htake : (routeLabel n ++ ']' :: '-' :: back).takeWhile isLabelChar = routeLabel n := by
    rw [List.takeWhile_append_of_pos (isLabelChar_of_mem_routeLabel n),
      List.takeWhile_cons_of_neg (by decide), List.append_nil]
  have hdrop : (routeLabel n ++ ']' :: '-' :: back).dropWhile isLabelChar =
      ']' :: '-' :: back := by
    rw [List.dropWhile_append_of_pos (isLabelChar_of_mem_routeLabel n),
      List.dropWhile_cons_of_neg (by decide)]
  have hback : (back.dropWhile (· == '-')).dropWhile isBlank = rest := by
    rw [List.dropWhile_append_of_pos (by simp), List.dropWhile_cons_of_neg (by decide),
      List.dropWhile_cons_of_pos rfl]
    exact trimStart_of_head? hrest
  have hdash (r : List Char) : ('-' :: '[' :: r).dropWhile (· == '-') = '[' :: r := rfl
  obtain ⟨c, label, hlabel⟩ : ∃ c label, routeLabel n = c :: label := ⟨_, _, rfl⟩
  rw [hlabel] at htake hdrop
  rw [hs, hlabel, separatorEnd?]
  simp only [hdash, htake, hdrop, hback]

/-- The blocks of a printed listing: what stands in front of the first separator, and the bodies. -/
theorem blocks_print {width : Nat → Nat} (hw : ∀ n, 0 < width n) {bs : List Block}
    (h : ∀ b ∈ bs, b.Printable) (n : Nat) :
    blocks (print width n bs) = [] :: bs.map Block.body := by
  induction bs generalizing n with
  | nil => simp [print, blocks, separatorEnd?]
  | cons b bs ih =>
    rw [List.forall_mem_cons] at h
    have hhead : (b.body ++ print width (n + 1) bs).head? = some 'P' := by
      simp [Block.body, Block.fields, Block.line, Block.labelColumn]
    have hfirst : ∀ c ∈ (b.body ++ print width (n + 1) bs).head?, isBlank c = false := by
      rw [hhead]
      rintro c ⟨⟩
      rfl
    have hbody : Uncut b.body (print width (n + 1) bs) :=
      uncut_lines (fun _ hf => mem_labels hf) h.1.whole (head?_print width (n + 1) bs)
    rw [print, blocks_of_separator (separatorEnd?_separatorLine n (hw n) hfirst),
      blocks_append hbody, ih h.2, List.modifyHead_cons, List.append_nil, List.map_cons]

/-! ## Fields of a printed block -/

theorem label_notMem_bar {label : String} (h : label ∈ labels) :
    '|' ∉ label.toList ++ List.replicate (18 - label.length) ' ' := by
  revert label
  decide

theorem trimmed_label {label : String} (h : label ∈ labels) : Trimmed label.toList := by
  simp only [labels, List.mem_cons, List.not_mem_nil, or_false] at h
  rcases h with rfl | rfl | rfl | rfl | rfl <;> exact Or.inr ⟨⟨_, rfl, rfl⟩, ⟨_, rfl, rfl⟩⟩

/-- The text of a field as it is read: a blank one counts as none. -/
def given (text : List Char) : Option String :=
  if text.isEmpty then none else some (String.ofList text)

theorem lineField?_line {field : String × List Char} (hlabel : field.1 ∈ labels)
    (ht : Trimmed field.2) : lineField? (Block.line field) = some (field.1, given field.2) := by
  obtain ⟨label, text⟩ := field
  have hline : Block.line (label, text) =
      (label.toList ++ List.replicate (18 - label.length) ' ') ++ '|' :: (' ' :: text) := by
    simp [Block.line, Block.labelColumn]
  have hpad : isBlankText (List.replicate (18 - label.length) ' ') = true := by
    simp [isBlankText, List.all_replicate, show isBlank ' ' = true from rfl]
  have htrim : trim (' ' :: text) = text := by
    have h := ht.trim_between (a := [' ']) (b := []) rfl rfl
    rwa [List.append_nil] at h
  rw [lineField?, hline, cutAt_append (label_notMem_bar hlabel), Option.map_some]
  simp only [(trimmed_label hlabel).trim_append hpad, htrim, String.ofList_toList]
  rfl

/-- A line that is printed has no carriage return at its end. -/
theorem stripReturn_line {field : String × List Char} (ht : Trimmed field.2) :
    stripReturn (Block.line field) = Block.line field := by
  obtain ⟨label, text⟩ := field
  have hlast : (Block.line (label, text)).getLast? ≠ some '\r' := by
    rcases ht with rfl | ⟨-, hend⟩
    · simp [Block.line, Block.labelColumn]
    · obtain ⟨r, c, rfl, hc⟩ := hend.exists_concat
      rw [Block.line, ← List.append_assoc, List.getLast?_concat]
      rintro ⟨⟩
      cases hc
  exact stripReturn_of_getLast? hlast

theorem lineFeed_notMem_line {field : String × List Char} (hlabel : field.1 ∈ labels)
    (hs : '\n' ∉ field.2) : '\n' ∉ Block.line field := by
  rw [Block.line, List.mem_append, not_or]
  refine ⟨?_, hs⟩
  generalize field.1 = label at hlabel
  revert label
  decide

/-- The fields of a block as it was printed. -/
theorem blockFields_body {b : Block} (h : b.Printable) :
    blockFields b.body = b.fields.map fun f => (f.1, given f.2) := by
  have hlines : lines b.body = b.fields.map Block.line := by
    have hsingle : ∀ l ∈ b.fields.map Block.line, '\n' ∉ l := by
      intro l hl
      obtain ⟨f, hf, rfl⟩ := List.mem_map.1 hl
      exact lineFeed_notMem_line (mem_labels hf) (h.single f hf)
    rw [Block.body, lines_flatMap hsingle, List.map_map]
    apply List.map_congr_left
    intro f hf
    exact stripReturn_line (h.trimmed f hf)
  have hread : (b.fields.map Block.line).filterMap lineField? =
      b.fields.map fun f => (f.1, given f.2) := by
    rw [List.filterMap_map, ← List.filterMap_eq_map]
    apply List.filterMap_congr
    intro f hf
    exact lineField?_line (mem_labels hf) (h.trimmed f hf)
  rw [blockFields, hlines, hread]
  rfl

/-! ## Routes of a printed block -/

theorem given_toList (s : String) : given s.toList = if s = "" then none else some s := by
  by_cases hs : s = ""
  · rw [hs]
    rfl
  · have hne : s.toList ≠ [] := fun he => hs (String.toList_eq_nil_iff.1 he)
    rw [given, if_neg (by simpa using hne), if_neg hs, String.ofList_toList]

/-- Verbs are read back from the text that holds them. -/
theorem verbs_given {verbs : List String} (h : ∀ v ∈ verbs, v ≠ "" ∧ '|' ∉ v.toList) :
    (match given (List.intercalate ['|'] (verbs.map String.toList)) with
      | some verb => (verb.toList.splitOn '|').map String.ofList
      | none => []) = verbs := by
  cases verbs with
  | nil => rfl
  | cons v vs =>
    have hbars : ∀ l ∈ (v :: vs).map String.toList, '|' ∉ l := by
      intro l hl
      obtain ⟨u, hu, rfl⟩ := List.mem_map.1 hl
      exact (h u hu).2
    have hsplit := List.splitOn_intercalate '|' hbars (by simp)
    have hne : List.intercalate ['|'] ((v :: vs).map String.toList) ≠ [] := by
      -- the first verb is not empty
      intro he
      have hv : v.toList ≠ [] := fun hv =>
        (h v List.mem_cons_self).1 (String.toList_eq_nil_iff.1 hv)
      cases vs with
      | nil =>
        rw [List.map_singleton, List.intercalate_singleton] at he
        exact hv he
      | cons u us =>
        rw [List.map_cons, List.map_cons, List.intercalate_cons_cons, List.append_eq_nil_iff,
          List.append_eq_nil_iff] at he
        exact hv he.1.1
    rw [given, if_neg (by simpa using hne)]
    simp only [String.toList_ofList, hsplit, List.map_map]
    conv_rhs => rw [← List.map_id (v :: vs)]
    apply List.map_congr_left
    intro u _
    exact String.ofList_toList

/-- The controller and the action stand on the two sides of the first number sign. -/
theorem splitTarget_eq (target : String) :
    splitTarget target = (String.ofList (target.toList.takeWhile (· ≠ '#')),
      if '#' ∈ target.toList then some (String.ofList (target.toList.dropWhile (· ≠ '#')).tail)
      else none) := by
  have hsplit : target.toList.takeWhile (· ≠ '#') ++ target.toList.dropWhile (· ≠ '#') =
      target.toList := List.takeWhile_append_dropWhile
  have hfront : '#' ∉ target.toList.takeWhile (· ≠ '#') := by
    intro hm
    have h := List.all_eq_true.1 List.all_takeWhile _ hm
    simp at h
  have hhead := List.head?_dropWhile_not (· ≠ '#') target.toList
  cases hdrop : target.toList.dropWhile (· ≠ '#') with
  | nil =>
    rw [hdrop, List.append_nil] at hsplit
    rw [hsplit] at hfront
    rw [splitTarget, cutAt_eq_none hfront, if_neg hfront, hsplit, String.ofList_toList]
  | cons c back =>
    rw [hdrop] at hsplit hhead
    obtain rfl : c = '#' := by simpa using hhead
    have hcut := cutAt_append hfront back
    rw [hsplit] at hcut
    have hmem : '#' ∈ target.toList := by
      rw [← hsplit]
      simp
    rw [splitTarget, hcut, if_pos hmem, List.tail_cons]

/-- The route of a block as it was printed. -/
theorem blockRoute_body (root : Option Path) (helper : String) {b : Block} (h : b.Printable) :
    blockRoute root helper (blockFields b.body) = b.route root helper := by
  have huri : fieldValue (blockFields b.body) "URI" = if b.uri = "" then none else some b.uri := by
    rw [blockFields_body h, ← given_toList]
    rfl
  have htarget : fieldValue (blockFields b.body) "Controller#Action" =
      if b.target = "" then none else some b.target := by
    rw [blockFields_body h, ← given_toList]
    rfl
  have hsource : fieldValue (blockFields b.body) "Source Location" =
      if b.source = "" then none else some b.source := by
    rw [blockFields_body h, ← given_toList]
    rfl
  have hverb : fieldValue (blockFields b.body) "Verb" =
      given (List.intercalate ['|'] (b.verbs.map String.toList)) := by
    rw [blockFields_body h]
    rfl
  have hgiven : (if b.uri = "" then none else some b.uri).getD "" = b.uri := by
    split
    · next he => exact he.symm
    · rfl
  rw [blockRoute, huri, htarget, hsource, hverb, Block.route]
  simp only [hgiven, Route.mk.injEq, true_and]
  refine ⟨verbs_given h.verb, ?_, ?_, ?_⟩
  · split
    · rfl
    · rw [Option.map_some, Option.map_some, splitTarget_eq]
  · split
    · next he => simp [he]
    · rw [Option.map_some, Option.bind_some, splitTarget_eq]
  · split <;> rfl

theorem fieldValue_prefix {b : Block} (h : b.Printable) (last : Option String) :
    (fieldValue (blockFields b.body) "Prefix").or last =
      if b.helper = "" then last else some b.helper := by
  have hvalue : fieldValue (blockFields b.body) "Prefix" =
      if b.helper = "" then none else some b.helper := by
    rw [blockFields_body h, ← given_toList]
    rfl
  rw [hvalue]
  split <;> rfl

/-! ## The walk -/

/-- Inserting the route of a block takes the block in. -/
theorem insert_route (root : Option Path) (helper : String) {b : Block} (h : b.Printable)
    {t : RouteTable} (hd : t.helpers.Nodup) :
    (t.insert (b.route root helper)).routes = b.enter root helper t.routes := by
  rw [RouteTable.routes_insert hd, Block.enter]
  have hverbs (r : Route) : r.addVerbs (b.route root helper).verbs =
      { r with verbs := r.verbs ++ b.verbs.filter fun v => v ∉ r.verbs } :=
    r.addVerbs_verbs h.once
  simp only [hverbs]
  rfl

/-- The routes of printed blocks make up the table of the walk over the blocks. -/
theorem foldl_blockRoutes (root : Option Path) {bs : List Block} (h : ∀ b ∈ bs, b.Printable)
    (last : Option String) {t : RouteTable} (hd : t.helpers.Nodup) :
    (blockRoutes root last (bs.map Block.body)).foldl RouteTable.insert t =
      ⟨Block.walk root last t.routes bs⟩ := by
  induction bs generalizing last t with
  | nil => rfl
  | cons b bs ih =>
    rw [List.forall_mem_cons] at h
    have hne : (blockFields b.body).isEmpty = false := by
      rw [blockFields_body h.1]
      rfl
    rw [List.map_cons, blockRoutes, Block.walk]
    simp only [hne, Bool.false_eq_true, if_false, fieldValue_prefix h.1]
    cases hlast : if b.helper = "" then last else some b.helper with
    | none =>
      obtain rfl : last = none := by
        split at hlast
        · exact hlast
        · cases hlast
      exact ih h.2 none hd
    | some helper =>
      simp only [List.foldl_cons, blockRoute_body root helper h.1]
      rw [ih h.2 (some helper) (RouteTable.nodup_helpers_insert hd _),
        insert_route root helper h.1 hd]

/-- **Reading back a listing.**  The table that is read from a printed listing is the one that a
walk over its blocks builds up. -/
theorem parseListing_print (root : Option Path) {width : Nat → Nat} (hw : ∀ n, 0 < width n)
    {bs : List Block} (h : ∀ b ∈ bs, b.Printable) :
    parseListing root (String.ofList (print width 1 bs)) = ⟨Block.walk root none [] bs⟩ := by
  have hempty : (blockFields []).isEmpty = true := rfl
  rw [parseListing, String.toList_ofList, blocks_print hw h, blockRoutes,
    RouteTable.ofList_eq_foldl]
  simp only [hempty, if_true]
  exact foldl_blockRoutes root h none List.nodup_nil

/-- A block can be printed if its texts are trimmed lines without an opening bracket, and its verbs
are as they have to be. -/
theorem Block.printable_of_notMem {b : Block}
    (h : ∀ f ∈ b.fields, '\n' ∉ f.2 ∧ '[' ∉ f.2 ∧ trim f.2 = f.2)
    (verb : ∀ v ∈ b.verbs, v ≠ "" ∧ '|' ∉ v.toList) (once : b.verbs.Nodup) : b.Printable where
  single f hf := (h f hf).1
  trimmed f hf := by
    rw [← (h f hf).2.2]
    exact trimmed_trim f.2
  whole f hf := not_holdsSeparator_of_notMem (h f hf).2.1
  verb := verb
  once := once

/-- A listing with an unnamed block at its start, two blocks of one helper, and bars, dashes and
number signs in the fields. -/
theorem parseListing_print_four :
    let bs : List Block := [
      { verbs := ["GET"], uri := "/assets", target := "assets#index" },
      { helper := "users", verbs := ["GET", "HEAD"], uri := "/u|s/:id(.:format)",
        target := "--users#in#dex", source := "/my_app/config/routes.rb:2" },
      { verbs := ["POST", "GET"], uri := "/users", target := "users#create" },
      { helper := "re--po", source := "/gems/a.rb:1--" }]
    let root : Option Path := some (Path.ofString "/my_app/")
    (∀ n : Nat, 0 < (fun n => n + 1) n) ∧ (∀ b ∈ bs, b.Printable) ∧
      parseListing root (String.ofList (print (fun n => n + 1) 1 bs)) = ⟨[
        { helper := "users", verbs := ["GET", "HEAD", "POST"], uri := "/u|s/:id(.:format)",
          params := ["id"], controller := some "--users", action := some "in#dex",
          source := some "./config/routes.rb:2" },
        { helper := "re--po", source := some "/gems/a.rb:1--" }]⟩ := by
  intro bs root
  have hw : ∀ n : Nat, 0 < (fun n => n + 1) n := fun n => Nat.succ_pos n
  have h : ∀ b ∈ bs, b.Printable := by
    intro b hb
    revert b
    simp only [bs, List.forall_mem_cons, List.not_mem_nil, false_implies, implies_true, and_true]
    refine ⟨?_, ?_, ?_, ?_⟩ <;> exact Block.printable_of_notMem (by decide) (by decide) (by decide)
  refine ⟨hw, h, ?_⟩
  rw [parseListing_print root hw h]
  decide

end HamlServer.Rails
