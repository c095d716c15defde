import HamlServer.Text.Utf8

/-!
Paths.

A path is a sequence of octets that slashes cut into components.  Two paths with the same components
name the same place and count as equal in scans and rankings; the octets themselves are kept, since
they are shown to the editor and passed to programs.

* `distance_comm`: the number of steps between two directories does not depend on the direction.
-/

namespace HamlServer

/-- The octet that separates components. -/
def slash : UInt8 := 47

/-- A step of a path. -/
inductive Component where
  | root
  | current
  | parent
  | name (octets : Bytes)
  deriving DecidableEq, Repr

namespace Component

/-- The octets of a component. -/
def octets : Component → Bytes
  | .root => [slash]
  | .current => [46]
  | .parent => [46, 46]
  | .name b => b

/-- The order of components: the root, then the dots, then names octet by octet. -/
def rank : Component → Nat
  | .root => 0
  | .current => 1
  | .parent => 2
  | .name _ => 3

/-- Octet order, the shorter first. -/
def octetsLe : Bytes → Bytes → Bool
  | [], _ => true
  | _ :: _, [] => false
  | a :: as, b :: bs => a < b || (a == b && octetsLe as bs)

/-- Whether a component comes before or with another. -/
def le : Component → Component → Bool
  | .name a, .name b => octetsLe a b
  | a, b => a.rank ≤ b.rank

end Component

/-- A path: its octets. -/
structure Path where
  octets : Bytes
  deriving DecidableEq, Repr, Inhabited

namespace Path

/-- The path of a text. -/
def ofString (s : String) : Path := ⟨Utf8.encode s⟩

/-- A path as text, whatever its octets. -/
def display (p : Path) : String := Utf8.decodeLossy p.octets

/-- A path as text, if its octets spell one. -/
def text? (p : Path) : Option String := Utf8.decode? p.octets

/-- Whether a path starts at the root. -/
def isAbsolute (p : Path) : Bool := p.octets.head? == some slash

/-- The component of a piece between slashes; an empty piece and a single dot give none. -/
def pieceComponent (piece : Bytes) : Option Component :=
  if piece = [] ∨ piece = [46] then none
  else if piece = [46, 46] then some .parent
  else some (.name piece)

/-- The components of a path.  A single dot counts only at the very front. -/
def components (p : Path) : List Component :=
  let pieces := p.octets.splitOn slash
  let front :=
    if p.isAbsolute then [.root] else if pieces.head? = some [46] then [.current] else []
  front ++ pieces.filterMap pieceComponent

/-- The path of components. -/
def ofComponents : List Component → Path
  | [] => ⟨[]⟩
  | .root :: cs => ⟨slash :: List.intercalate [slash] (cs.map Component.octets)⟩
  | cs => ⟨List.intercalate [slash] (cs.map Component.octets)⟩

/-- A path taken from a base; an absolute path stands for itself. -/
def join (base p : Path) : Path :=
  if p.isAbsolute || base.octets.isEmpty then p
  else if base.octets.getLast? = some slash then ⟨base.octets ++ p.octets⟩
  else ⟨base.octets ++ slash :: p.octets⟩

/-- A path of text taken from a base. -/
def child (base : Path) (s : String) : Path := base.join (ofString s)

/-- Whether two paths have the same components. -/
def same (p q : Path) : Bool := p.components == q.components

/-- The directory of a path, unless it is the root or empty. -/
def parent? (p : Path) : Option Path :=
  match p.components.getLast? with
  | none | some .root => none
  | some _ => some (ofComponents p.components.dropLast)

/-- The directory of a path, or the path itself where there is none. -/
def directory (p : Path) : Path := p.parent?.getD p

/-- The last component of a path, if it is a name. -/
def fileName? (p : Path) : Option Bytes :=
  match p.components.getLast? with
  | some (.name b) => some b
  | _ => none

/-- Whether the components of `base` are the first of a path. -/
def isUnder (p base : Path) : Bool := base.components.isPrefixOf p.components

/-- The order of paths: by components. -/
def componentsLe : List Component → List Component → Bool
  | [], _ => true
  | _ :: _, [] => false
  | a :: as, b :: bs => (a != b && a.le b) || (a == b && componentsLe as bs)

/-- The components of a path without single dots. -/
def steps (p : Path) : List Component := p.components.filter (· != .current)

/-- The length of the longest common beginning of two lists. -/
def commonLength {α : Type} [DecidableEq α] : List α → List α → Nat
  | a :: as, b :: bs => if a = b then commonLength as bs + 1 else 0
  | _, _ => 0

/-- The number of steps from one directory to another: up to the last common one and down again. -/
def distance (p q : Path) : Nat :=
  let a := p.steps
  let b := q.steps
  let common := commonLength a b
  (a.length - common) + (b.length - common)

theorem commonLength_comm {α : Type} [DecidableEq α] (as bs : List α) :
    commonLength as bs = commonLength bs as := by
  induction as generalizing bs with
  | nil => cases bs <;> rfl
  | cons a as ih =>
    cases bs with
    | nil => rfl
    | cons b bs =>
      by_cases h : a = b
      · simp [commonLength, h, ih]
      · simp [commonLength, h, Ne.symm h]

theorem distance_comm (p q : Path) : distance p q = distance q p := by
  simp [distance, commonLength_comm q.steps p.steps, Nat.add_comm]

end Path

end HamlServer
