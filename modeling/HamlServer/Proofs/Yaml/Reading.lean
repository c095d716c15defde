import HamlServer.Yaml.Value

/-!
# Reading the nodes of a YAML document

A reading follows aliases as long as it may.  How many it may still follow decides only whether a
node is read, not as what: a node has one value.  A map is a list of entries with texts for keys; of
the entries with one key the last counts, and `at?` follows a way of keys from the root.

* `Steady.unique`: a reading gives one result, whatever number of aliases it may follow.
* `steady_value`, `HasValue.unique`: a node has one value.
* `target?_of_resolve`: what a reading goes on with is the node that an alias stands for.
-/

namespace HamlServer.Yaml

variable {α β : Type} {d : Document} {m : Reading α} {f : α → Reading β} {n t : Node}
  {left left' : Nat}

/-! ## Readings -/

theorem exists_of_run_bind {b : β} (h : (m >>= f).run left = some (b, left')) :
    ∃ a mid, m.run left = some (a, mid) ∧ (f a).run mid = some (b, left') := by
  rw [StateT.run_bind] at h
  obtain ⟨⟨a, mid⟩, ha, hb⟩ := Option.bind_eq_some_iff.1 h
  exact ⟨a, mid, ha, hb⟩

theorem run_bind_of_eq {a : α} {mid : Nat} (h : m.run left = some (a, mid)) (f : α → Reading β) :
    (m >>= f).run left = (f a).run mid := by
  rw [StateT.run_bind, h]
  rfl

/-- A reading that more aliases make no difference to, once it has a result. -/
def Steady (m : Reading α) : Prop :=
  ∀ left a left', m.run left = some (a, left') →
    ∀ more, m.run (left + more) = some (a, left' + more)

namespace Steady

/-- A reading gives one result, whatever number of aliases it may follow. -/
theorem unique {a b : α} {leftA leftA' leftB leftB' : Nat} (hm : Steady m)
    (ha : m.run leftA = some (a, leftA')) (hb : m.run leftB = some (b, leftB')) : a = b := by
  have haMore := hm leftA a leftA' ha leftB
  have hbMore := hm leftB b leftB' hb leftA
  rw [Nat.add_comm, haMore] at hbMore
  exact congrArg Prod.fst (Option.some.inj hbMore)

theorem pure (a : α) : Steady (Pure.pure a) := by
  intro left b left' h more
  obtain ⟨rfl, rfl⟩ := Prod.mk.inj (Option.some.inj h)
  rfl

theorem lift (x : Option α) : Steady (StateT.lift x) := by
  intro left a left' h more
  cases x with
  | none => cases h
  | some b =>
    obtain ⟨rfl, rfl⟩ := Prod.mk.inj (Option.some.inj h)
    rfl

theorem failure : Steady (failure : Reading α) := by
  intro left a left' h more
  cases h

theorem bind (hm : Steady m) (hf : ∀ a, Steady (f a)) : Steady (m >>= f) := by
  intro left b left' h more
  obtain ⟨a, mid, ha, hb⟩ := exists_of_run_bind h
  rw [run_bind_of_eq (hm left a mid ha more) f]
  exact hf a mid b left' hb more

theorem mapM (hf : ∀ a, Steady (f a)) (l : List α) : Steady (l.mapM f) := by
  induction l with
  | nil =>
    rw [List.mapM_nil]
    exact pure []
  | cons a l ih =>
    rw [List.mapM_cons]
    exact (hf a).bind fun b => ih.bind fun bs => pure (b :: bs)

end Steady

/-! ## Aliases -/

/-- The node that a node stands for. -/
def Document.target? (d : Document) : Node → Option Node
  | .alias anchor => d.anchored.lookup anchor
  | n => some n

theorem run_resolve_alias (anchor : Nat) (left : Nat) :
    (d.resolve (.alias anchor)).run left =
      match left, d.anchored.lookup anchor with
      | left + 1, some t => some (t, left)
      | _, _ => none := by
  cases left with
  | zero => rfl
  | succ left =>
    unfold Document.resolve
    show ((match left + 1, d.anchored.lookup anchor with
      | left + 1, some target => do
        set left
        return target
      | _, _ => failure : Reading Node)).run (left + 1) = _
    cases d.anchored.lookup anchor with
    | none => rfl
    | some t => rfl

theorem target?_of_resolve (h : (d.resolve n).run left = some (t, left')) :
    d.target? n = some t := by
  cases n with
  | «alias» anchor =>
    rw [run_resolve_alias] at h
    split at h
    · next hlookup =>
      obtain ⟨rfl, -⟩ := Prod.mk.inj (Option.some.inj h)
      exact hlookup
    · cases h
  | _ =>
    obtain ⟨rfl, -⟩ := Prod.mk.inj (Option.some.inj h)
    rfl

theorem steady_resolve (d : Document) (n : Node) : Steady (d.resolve n) := by
  cases n with
  | «alias» anchor =>
    intro left t left' h more
    rw [run_resolve_alias] at h ⊢
    split at h
    · next left hlookup =>
      obtain ⟨rfl, rfl⟩ := Prod.mk.inj (Option.some.inj h)
      rw [Nat.succ_add, hlookup]
    · cases h
  | _ => exact Steady.pure _

/-! ## Values -/

theorem steady_value (d : Document) (depth : Nat) (n : Node) : Steady (d.value depth n) := by
  induction depth generalizing n with
  | zero =>
    unfold Document.value
    apply (steady_resolve d n).bind
    intro t
    cases t with
    | scalar text style tag => exact Steady.lift _
    | _ => exact Steady.failure
  | succ depth ih =>
    unfold Document.value
    apply (steady_resolve d n).bind
    intro t
    cases t with
    | scalar text style tag => exact Steady.lift _
    | list items tag =>
      dsimp only
      split
      · exact Steady.failure
      · exact (Steady.mapM ih items).bind fun values => Steady.pure _
    | map entries tag =>
      dsimp only
      split
      · exact Steady.failure
      · have hentry : ∀ e : Node × Node, Steady (do
            return (← d.value depth e.1, ← d.value depth e.2)) := by
          intro e
          exact (ih e.1).bind fun k => (ih e.2).bind fun v => Steady.pure (k, v)
        exact (Steady.mapM hentry entries).bind fun values => Steady.lift _
    | _ => exact Steady.failure

namespace Document

/-- A node has a value, for some number of aliases that may be followed. -/
def HasValue (d : Document) (depth : Nat) (n : Node) (v : Value) : Prop :=
  ∃ left left', (d.value depth n).run left = some (v, left')

/-- A node has one value. -/
theorem HasValue.unique {depth : Nat} {v w : Value} (hv : d.HasValue depth n v)
    (hw : d.HasValue depth n w) : v = w := by
  obtain ⟨leftV, leftV', hv⟩ := hv
  obtain ⟨leftW, leftW', hw⟩ := hw
  exact (steady_value d depth n).unique hv hw

/-! ## Keys -/

/-- The text of a key. -/
def keyText? (d : Document) (key : Node) : Option String :=
  match d.target? key with
  | some (.scalar text _ _) => some text
  | _ => none

/-- The entries of a map by the texts of their keys. -/
def entries (d : Document) (n : Node) : List (String × Node) :=
  match d.target? n with
  | some (.map entries _) => entries.filterMap fun (k, v) => (d.keyText? k).map (·, v)
  | _ => []

/-- The node under a key of a map; of several the last. -/
def member? (d : Document) (key : String) (n : Node) : Option Node :=
  (d.entries n).reverse.lookup key

/-- The node at the end of a way of keys from the root. -/
def at? (d : Document) (keys : List String) : Option Node :=
  keys.foldl (fun n key => n.bind (d.member? key)) d.root

theorem at?_concat (d : Document) (keys : List String) (key : String) :
    d.at? (keys ++ [key]) = (d.at? keys).bind (d.member? key) := by
  unfold at?
  rw [List.foldl_append, List.foldl_cons, List.foldl_nil]

end Document

end HamlServer.Yaml
