import HamlServer.Rails.Listing

/-!
# Separators and blocks

A separator is found at the first place where dashes, a label in brackets and dashes follow each
other.  The label may hold white space of any kind, so a separator may go over the end of a line;
but then the next line would have to go on with the label and close it.

* `exists_of_separatorEnd?`: what a text starts with that starts with a separator.
* `separatorEnd?_append_lineFeed`: no separator goes over the end of a line into one that does not
  close the label.
* `blocks_append`: a text in which no separator starts belongs to one block.
-/

namespace HamlServer.Rails

open Text

variable {a b s t rest : List Char} {c : Char}

/-- A separator stands somewhere in a text: a dash, a label in brackets, and a dash. -/
def HoldsSeparator (s : List Char) : Prop :=
  ∃ front label back, s = front ++ '-' :: '[' :: label ++ ']' :: '-' :: back ∧ label ≠ [] ∧
    ∀ c ∈ label, isLabelChar c = true

theorem HoldsSeparator.cons (h : HoldsSeparator s) (c : Char) : HoldsSeparator (c :: s) := by
  obtain ⟨front, label, back, rfl, hne, hlabel⟩ := h
  exact ⟨c :: front, label, back, rfl, hne, hlabel⟩

/-- A text without an opening bracket holds no separator. -/
theorem not_holdsSeparator_of_notMem (h : '[' ∉ s) : ¬ HoldsSeparator s := by
  rintro ⟨front, label, back, rfl, -, -⟩
  exact h (by simp)

/-! ## The front of a text -/

/-- A text that starts with a separator starts with dashes, a label in brackets and a dash. -/
theorem exists_of_separatorEnd? (h : separatorEnd? s = some rest) :
    ∃ n label back, s = List.replicate n '-' ++ '-' :: '[' :: (label ++ ']' :: '-' :: back) ∧
      label ≠ [] ∧ ∀ c ∈ label, isLabelChar c = true := by
  unfold separatorEnd? at h
  split at h
  · next r =>
    split at h
    · next r' hr =>
      split at h
      · next x xs r'' hlabel hback =>
        -- the dashes behind the first one are as good as dashes in front of the last one
        have hdash : '-' :: r.takeWhile (· == '-') =
            List.replicate (r.takeWhile (· == '-')).length '-' ++ ['-'] := by
          rw [← List.replicate_succ', List.eq_replicate_iff]
          refine ⟨rfl, ?_⟩
          intro d hd
          rcases List.mem_cons.1 hd with rfl | hd
          · rfl
          · exact eq_of_beq (List.all_eq_true.1 List.all_takeWhile d hd)
        have hr' : r' = r'.takeWhile isLabelChar ++ ']' :: '-' :: r'' := by
          rw [← hback, List.takeWhile_append_dropWhile]
        refine ⟨(r.takeWhile (· == '-')).length, r'.takeWhile isLabelChar, r'', ?_,
          by rw [hlabel]; exact List.cons_ne_nil x xs, List.all_eq_true.1 List.all_takeWhile⟩
        rw [← hr', List.append_cons, ← hdash, ← hr, List.cons_append,
          List.takeWhile_append_dropWhile]
      · cases h
    · cases h
  · cases h

/-- A text that starts with something else than a dash starts with no separator. -/
theorem separatorEnd?_cons (h : c ≠ '-') (s : List Char) : separatorEnd? (c :: s) = none := by
  unfold separatorEnd?
  split
  · next he => exact absurd (List.cons.inj he).1 h
  · rfl

/-- What stands behind the label characters at the front of `label ++ ']' :: back`. -/
theorem head?_dropWhile_label {label : List Char} (h : ∀ c ∈ label, isLabelChar c = true)
    (back : List Char) : ((label ++ ']' :: back).dropWhile isLabelChar).head? = some ']' := by
  rw [List.dropWhile_append_of_pos h, List.dropWhile_cons_of_neg (by decide)]
  rfl

/-- No separator goes over the end of a line, unless the next line closes its label. -/
theorem separatorEnd?_append_lineFeed (ht : ¬ HoldsSeparator t)
    (hr : (rest.dropWhile isLabelChar).head? ≠ some ']') :
    separatorEnd? (t ++ '\n' :: rest) = none := by
  rw [Option.eq_none_iff_forall_ne_some]
  intro e he
  obtain ⟨n, label, back, hs, hlabel, hall⟩ := exists_of_separatorEnd? he
  -- the part from the opening bracket on, and where the line ends in it
  have hdash : '\n' ∉ List.replicate n '-' ++ ['-', '['] := by simp
  rw [show List.replicate n '-' ++ '-' :: '[' :: (label ++ ']' :: '-' :: back) =
    (List.replicate n '-' ++ ['-', '[']) ++ (label ++ ']' :: '-' :: back) by simp] at hs
  have hfront : ∃ x, t = (List.replicate n '-' ++ ['-', '[']) ++ x ∧
      label ++ ']' :: '-' :: back = x ++ '\n' :: rest := by
    rcases List.append_eq_append_iff.1 hs with ⟨x, hx, hx'⟩ | ⟨x, hx, hx'⟩
    · cases x with
      | nil => exact ⟨[], by simpa using hx.symm, by simpa using hx'.symm⟩
      | cons c x =>
        obtain rfl : '\n' = c := (List.cons.inj hx').1
        exact absurd (by rw [hx]; simp) hdash
    · exact ⟨x, hx, hx'⟩
  obtain ⟨x, hx, hx'⟩ := hfront
  rcases List.append_eq_append_iff.1 hx' with ⟨y, hy, hy'⟩ | ⟨y, hy, hy'⟩
  · -- the line ends behind the label, so the whole separator stands in the line
    match y, hy' with
    | [], hy' => exact absurd (List.cons.inj hy').1 (by decide)
    | [d], hy' => exact absurd (List.cons.inj (List.cons.inj hy').2).1 (by decide)
    | d :: d' :: y, hy' =>
      obtain ⟨rfl, hy''⟩ := List.cons.inj hy'
      obtain ⟨rfl, -⟩ := List.cons.inj hy''
      exact ht ⟨List.replicate n '-', label, y, by rw [hx, hy]; simp, hlabel, hall⟩
  · -- the line ends in the label, so the next line closes it
    cases y with
    | nil => exact absurd (List.cons.inj hy').1 (by decide)
    | cons d y =>
      obtain ⟨rfl, hrest⟩ := List.cons.inj hy'
      have hy : ∀ c ∈ y, isLabelChar c = true := fun c hc => hall c (by rw [hy]; simp [hc])
      exact hr (by rw [hrest]; exact head?_dropWhile_label hy _)

/-! ## Blocks -/

theorem blocks_of_separator (h : separatorEnd? s = some rest) : blocks s = [] :: blocks rest := by
  rw [blocks]
  split
  · next r hr =>
    obtain rfl : rest = r := Option.some.inj (h.symm.trans hr)
    rfl
  · next hn => rw [h] at hn; cases hn

theorem blocks_ne_nil (s : List Char) : blocks s ≠ [] := by
  rw [blocks]
  split
  · exact List.cons_ne_nil _ _
  · split
    · exact List.cons_ne_nil _ _
    · split <;> exact List.cons_ne_nil _ _

theorem blocks_cons (h : separatorEnd? (c :: s) = none) :
    blocks (c :: s) = (blocks s).modifyHead (c :: ·) := by
  rw [blocks]
  split
  · next r hr => rw [h] at hr; cases hr
  · obtain ⟨p, ps, hp⟩ := List.exists_cons_of_ne_nil (blocks_ne_nil s)
    simp only [hp, List.modifyHead_cons]

/-- No separator starts inside of a text where another one follows it. -/
def Uncut : List Char → List Char → Prop
  | [], _ => True
  | c :: a, b => separatorEnd? (c :: a ++ b) = none ∧ Uncut a b

theorem Uncut.append (h : Uncut a (b ++ rest)) (hb : Uncut b rest) : Uncut (a ++ b) rest := by
  induction a with
  | nil => exact hb
  | cons c a ih =>
    refine ⟨?_, ih h.2⟩
    show separatorEnd? (c :: (a ++ b ++ rest)) = none
    rw [List.append_assoc]
    exact h.1

theorem uncut_of_notMem (h : '-' ∉ a) (b : List Char) : Uncut a b := by
  induction a with
  | nil => trivial
  | cons c a ih =>
    rw [List.mem_cons, not_or] at h
    exact ⟨separatorEnd?_cons (Ne.symm h.1) _, ih h.2⟩

/-- No separator starts in a line that holds none, unless the next line closes its label. -/
theorem uncut_line (ht : ¬ HoldsSeparator t) (hr : (rest.dropWhile isLabelChar).head? ≠ some ']') :
    Uncut (t ++ ['\n']) rest := by
  induction t with
  | nil => exact ⟨separatorEnd?_cons (by decide) _, trivial⟩
  | cons c t ih =>
    refine ⟨?_, ih fun h => ht (h.cons c)⟩
    have h := separatorEnd?_append_lineFeed ht hr
    rwa [List.append_cons] at h

/-- A text in which no separator starts belongs to one block. -/
theorem blocks_append (h : Uncut a b) : blocks (a ++ b) = (blocks b).modifyHead (a ++ ·) := by
  induction a with
  | nil =>
    obtain ⟨p, ps, hp⟩ := List.exists_cons_of_ne_nil (blocks_ne_nil b)
    rw [List.nil_append, hp, List.modifyHead_cons, List.nil_append]
  | cons c a ih =>
    obtain ⟨p, ps, hp⟩ := List.exists_cons_of_ne_nil (blocks_ne_nil b)
    have hc : separatorEnd? (c :: (a ++ b)) = none := h.1
    rw [List.cons_append, blocks_cons hc, ih h.2, hp]
    rfl

end HamlServer.Rails
