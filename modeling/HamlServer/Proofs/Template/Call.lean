import HamlServer.Proofs.Text.Ink
import HamlServer.Template.Call

/-!
# Reading back a call

`openCall` is an output line up to the opening quote of a helper's argument, and `closedCall` the
same line with an argument and the closing quote.  The helper of such a line is found at its front
as long as the names that are looked for can be told apart, and the argument as long as it holds no
quote.

* `callAt?_append`: the call of a helper and its argument.
* `closedText?_quoted`: an argument between quotes.
-/

namespace HamlServer.Template

open Text

variable {α : Type} {s r p a : List Char} {names : List String} {name : String}

/-- An output line up to the opening quote of a helper's argument. -/
def openCall (helper : String) : List Char := '=' :: ' ' :: (helper.toList ++ [' ', '\''])

/-- An output line that calls a helper with a quoted argument. -/
def closedCall (helper : String) (argument : List Char) : List Char :=
  openCall helper ++ argument ++ ['\'']

theorem closedCall_eq (helper : String) (s : List Char) :
    closedCall helper s = '=' :: ' ' :: (helper.toList ++ ' ' :: '\'' :: (s ++ ['\''])) := by
  simp [closedCall, openCall]

/-! ## The name of the helper -/

/-- A beginning that does not hold the separator ends in front of it. -/
theorem prefix_of_notMem {c : Char} (h : p <+: a ++ c :: r) (hc : c ∉ p) : p <+: a := by
  rcases List.prefix_or_prefix_of_prefix h (List.prefix_append a (c :: r)) with hpa | ⟨m, rfl⟩
  · exact hpa
  · rw [List.prefix_append_right_inj] at h
    cases m with
    | nil => simp
    | cons x m =>
      have hx : x = c := (List.cons_prefix_cons.1 h).1
      exact absurd (List.mem_append_right a (hx ▸ List.mem_cons_self)) hc

/-- Names that calls tell apart: none begins another, and none holds a space or starts with white
space. -/
structure ToldApart (names : List String) : Prop where
  eq_of_prefix : ∀ name ∈ names, ∀ n ∈ names, n.toList <+: name.toList → n = name
  space_notMem : ∀ n ∈ names, ' ' ∉ n.toList
  head?_isBlank : ∀ n ∈ names, n.toList.head?.map isBlank = some false

theorem ToldApart.startsInk (h : ToldApart names) (hmem : name ∈ names) :
    StartsInk name.toList := by
  obtain ⟨c, hc, hblank⟩ := Option.map_eq_some_iff.1 (h.head?_isBlank name hmem)
  exact ⟨c, hc, hblank⟩

theorem ToldApart.of_cons {n : String} (h : ToldApart (n :: names)) : ToldApart names where
  eq_of_prefix := fun a ha b hb =>
    h.eq_of_prefix a (List.mem_cons_of_mem n ha) b (List.mem_cons_of_mem n hb)
  space_notMem := fun a ha => h.space_notMem a (List.mem_cons_of_mem n ha)
  head?_isBlank := fun a ha => h.head?_isBlank a (List.mem_cons_of_mem n ha)

/-- A call of one of the names is read as a call of no other. -/
theorem nameAt?_append (h : ToldApart names) (hmem : name ∈ names) (r : List Char) :
    nameAt? names (name.toList ++ ' ' :: r) = some (name, ' ' :: r) := by
  induction names with
  | nil => cases hmem
  | cons n names ih =>
    rw [nameAt?, List.findSome?_cons]
    cases hn : dropStart? n.toList (name.toList ++ ' ' :: r) with
    | some rest =>
      have htext : name.toList ++ ' ' :: r = n.toList ++ rest := dropStart?_eq_some_iff.1 hn
      have hprefix : n.toList <+: name.toList :=
        prefix_of_notMem ⟨rest, htext.symm⟩ (h.space_notMem n List.mem_cons_self)
      obtain rfl : n = name := h.eq_of_prefix name hmem n List.mem_cons_self hprefix
      rw [List.append_cancel_left htext]
      rfl
    | none =>
      have hne : name ≠ n := by
        rintro rfl
        rw [dropStart?_eq_some_iff.2 rfl] at hn
        cases hn
      exact ih h.of_cons ((List.mem_cons.1 hmem).resolve_left hne)

theorem callAt?_append (h : ToldApart names) (hmem : name ∈ names) (r : List Char) :
    callAt? names (name.toList ++ ' ' :: '\'' :: r) = some (name, '\'' :: r) := by
  rw [callAt?, nameAt?_append h hmem]
  rfl

/-! ## The argument -/

theorem closedText?_quoted (hne : s ≠ []) (h : ∀ c ∈ s, isQuote c = false) :
    closedText? ('\'' :: (s ++ ['\''])) = some s := by
  have htext : (s ++ ['\'']).takeWhile (fun c => !isQuote c) = s := by
    rw [List.takeWhile_append_of_pos fun c hc => by rw [h c hc, Bool.not_false]]
    simp [isQuote]
  have hfull : s.isEmpty = false := by
    rwa [List.isEmpty_eq_false_iff]
  have hlt : s.length < (s ++ ['\'']).length := by
    rw [List.length_append, List.length_singleton]
    omega
  simp only [closedText?, htext, hfull, decide_eq_true hlt]
  rfl

/-! ## The line -/

theorem findMatch_of_front {matcher : List Char → Option α} {v : α} (h : matcher s = some v) :
    findMatch matcher s = some v := by
  cases s with
  | nil => exact h
  | cons c r => rw [findMatch, h, Option.orElse_some]

theorem findMatch_cons_of_none {matcher : List Char → Option α} {c : Char}
    (h : matcher (c :: s) = none) : findMatch matcher (c :: s) = findMatch matcher s := by
  rw [findMatch, h]
  rfl

/-- An output line is read behind its equals sign and the space. -/
theorem findMatch_outputAt? {call : List Char → Option α} {v : α} (hs : StartsInk s)
    (h : call s = some v) : findMatch (outputAt? call) ('=' :: ' ' :: s) = some v := by
  refine findMatch_of_front ?_
  have htrim : trimStart (' ' :: s) = s := hs.trimStart_eq
  rw [outputAt?, htrim, h]

end HamlServer.Template
