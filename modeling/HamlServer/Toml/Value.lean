import HamlServer.Decimal.Binary64
import HamlServer.KeyedList

/-!
Values of TOML, and how a document builds its tables.

A table remembers how it came to be, because that decides what may still be added to it.  A header
opens a table once, though headers of tables inside it may have implied it before.  A key with dots
reaches only into tables that such keys made, and nothing is added to a table between braces.
-/

namespace HamlServer.Toml

/-- How a table came to be: implied by the header of a table inside it, opened by its own header,
made by a key with dots, or written between braces. -/
inductive Opening where
  | implied
  | header
  | dotted
  | braces
  deriving DecidableEq, Repr

/-- A value.  An immense one is a numeral whose number is too large to be held; a moment is a date
or a time as it is written; `tables` are those that repeated headers open. -/
inductive Value where
  | string (s : String)
  | boolean (b : Bool)
  | integer (n : Int)
  | real (x : Double)
  | immense
  | moment (text : String)
  | array (items : List Value)
  | table (opening : Opening) (entries : List (String × Value))
  | tables (items : List Value)
  deriving Inhabited

/-- The entries of a table; every key stands once. -/
abbrev Entries := List (String × Value)

/-- A key with dots: the keys of the tables on the way, and the last key. -/
structure KeyPath where
  front : List String
  last : String
  deriving DecidableEq, Repr

/-- All keys of a path. -/
def KeyPath.toList (p : KeyPath) : List String := p.front ++ [p.last]

namespace Value

mutual

/-- Whether all numbers of a value can be held. -/
def isReadable : Value → Bool
  | .immense => false
  | .array items => allReadable items
  | .tables items => allReadable items
  | .table _ entries => allEntriesReadable entries
  | _ => true
termination_by structural v => v

/-- Whether all numbers of some values can be held. -/
def allReadable : List Value → Bool
  | [] => true
  | v :: vs => isReadable v && allReadable vs
termination_by structural vs => vs

/-- Whether all numbers of an entry can be held. -/
def entryReadable : String × Value → Bool
  | (_, v) => isReadable v
termination_by structural e => e

/-- Whether all numbers of some entries can be held. -/
def allEntriesReadable : List (String × Value) → Bool
  | [] => true
  | e :: es => entryReadable e && allEntriesReadable es
termination_by structural es => es

end

end Value

namespace Entries

/-- Changes the entries of the table that keys lead to.  Tables that are missing on the way are made
as `fresh` says, and of repeated tables the last one counts. -/
def within (fresh : Opening) (change : Opening → Entries → Option Entries) :
    List String → Opening → Entries → Option Entries
  | [], opening, es => change opening es
  | k :: ks, _, es => do
    let reach (opening : Opening) (inner : Entries) : Option Value :=
      (within fresh change ks opening inner).map (Value.table opening)
    let v ← match es.lookup k with
      | none => reach fresh []
      | some (.table opening inner) =>
        if opening = .braces ∨ (fresh = .dotted ∧ opening = .header) then none
        else reach opening inner
      | some (.tables items) =>
        match items.getLast? with
        | some (.table opening inner) =>
          (reach opening inner).map fun v => .tables (items.dropLast ++ [v])
        | _ => none
      | some _ => none
    return setKey k v es

/-- Adds a value under a key that has none yet.  Behind dots, the table that takes it has to be one
that such keys made. -/
def assign (path : KeyPath) (v : Value) (es : Entries) : Option Entries :=
  within .dotted (fun opening es =>
    if (path.front ≠ [] ∧ opening ≠ .dotted) ∨ (es.lookup path.last).isSome then none
    else some (es ++ [(path.last, v)])) path.front .header es

/-- Opens a table by its header. -/
def openTable (path : KeyPath) (es : Entries) : Option Entries :=
  within .implied (fun _ es =>
    match es.lookup path.last with
    | none => some (setKey path.last (.table .header []) es)
    | some (.table .implied inner) => some (setKey path.last (.table .header inner) es)
    | some _ => none) path.front .header es

/-- Adds a table to those that repeated headers open. -/
def addTable (path : KeyPath) (es : Entries) : Option Entries :=
  within .implied (fun _ es =>
    match es.lookup path.last with
    | none => some (setKey path.last (.tables [.table .header []]) es)
    | some (.tables items) => some (setKey path.last (.tables (items ++ [.table .header []])) es)
    | some _ => none) path.front .header es

end Entries

end HamlServer.Toml
