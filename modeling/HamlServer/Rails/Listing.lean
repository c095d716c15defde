import HamlServer.Files.Path
import HamlServer.Rails.Route
import HamlServer.Text.Line
import HamlServer.Text.Word

/-!
The expanded listing of routes.

A listing consists of blocks, each after a separating line.  A block gives the fields of one route,
a line each, as a label and a value with a bar between them.  A block whose helper is blank belongs
to the helper of the block before it, and a block without any known field does not count.

* `separatorEnd?_length`: a separator takes at least one character.
-/

namespace HamlServer.Rails

open Text

/-- The characters of the label inside a separator. -/
def isLabelChar (c : Char) : Bool := isBlank c || isWordChar c

/-- What follows the separator at the front of a text: dashes, a label in brackets, dashes, and the
white space behind them. -/
def separatorEnd? : List Char → Option (List Char)
  | '-' :: r =>
    match r.dropWhile (· == '-') with
    | '[' :: r =>
      match r.takeWhile isLabelChar, r.dropWhile isLabelChar with
      | _ :: _, ']' :: '-' :: r => some ((r.dropWhile (· == '-')).dropWhile isBlank)
      | _, _ => none
    | _ => none
  | _ => none

theorem length_dropWhile_le {α : Type} (p : α → Bool) (l : List α) :
    (l.dropWhile p).length ≤ l.length := (List.dropWhile_sublist p).length_le

theorem separatorEnd?_length {s rest : List Char} (h : separatorEnd? s = some rest) :
    rest.length < s.length := by
  unfold separatorEnd? at h
  split at h
  · next r =>
    split at h
    · next r' hr =>
      split at h
      · next r'' _ hr' =>
        obtain rfl := Option.some.inj h
        have h1 := length_dropWhile_le (· == '-') r
        have h2 := length_dropWhile_le isLabelChar r'
        have h3 := length_dropWhile_le isBlank (r''.dropWhile (· == '-'))
        have h4 := length_dropWhile_le (· == '-') r''
        simp only [hr, hr', List.length_cons] at h1 h2 ⊢
        omega
      · simp at h
    · simp at h
  · simp at h

/-- The blocks of a listing: the pieces between its separators. -/
def blocks (s : List Char) : List (List Char) :=
  match _h : separatorEnd? s with
  | some rest => [] :: blocks rest
  | none =>
    match s with
    | [] => [[]]
    | c :: r =>
      match blocks r with
      | [] => [[c]]
      | b :: bs => (c :: b) :: bs
termination_by s.length
decreasing_by
  · exact separatorEnd?_length _h
  · simp

/-- The label and the value of a line, without white space around them; a blank value counts as
none. -/
def lineField? (line : List Char) : Option (String × Option String) :=
  (cutAt '|' line).map fun (label, value) =>
    let value := trim value
    (String.ofList (trim label), if value.isEmpty then none else some (String.ofList value))

/-- The labels of a block. -/
def labels : List String := ["Prefix", "Verb", "URI", "Controller#Action", "Source Location"]

/-- The known fields of a block, in their order. -/
def blockFields (block : List Char) : List (String × Option String) :=
  ((lines block).filterMap lineField?).filter fun (label, _) => labels.contains label

/-- The value of a field: what its last line gives. -/
def fieldValue (fields : List (String × Option String)) (label : String) : Option String :=
  (fields.reverse.lookup label).join

/-- The parameters of an address: the names after colons, `format` left out. -/
def pathParams (uri : List Char) : List String :=
  ((uri.splitOn ':').tail.map (·.takeWhile isWordChar)).filterMap fun name =>
    if name.isEmpty || name == "format".toList then none else some (String.ofList name)

/-- A declaration under the root is shown from the root on. -/
def relativeSource (root : Option Path) (source : String) : String :=
  match root.bind Path.text? with
  | none => source
  | some root =>
    let root := (root.toList.reverse.dropWhile (· == '/')).reverse
    match dropStart? root source.toList with
    | some ('/' :: rest) => String.ofList ('.' :: '/' :: rest)
    | _ => source

/-- The controller and the action of a value; the action follows the first number sign. -/
def splitTarget (value : String) : String × Option String :=
  match cutAt '#' value.toList with
  | some (controller, action) => (String.ofList controller, some (String.ofList action))
  | none => (value, none)

/-- The route of a block with a helper. -/
def blockRoute (root : Option Path) (helper : String) (fields : List (String × Option String)) :
    Route :=
  let uri := (fieldValue fields "URI").getD ""
  let target := (fieldValue fields "Controller#Action").map splitTarget
  { helper
    verbs := match fieldValue fields "Verb" with
      | some verb => (verb.toList.splitOn '|').map String.ofList
      | none => []
    uri
    params := pathParams uri.toList
    controller := target.map (·.1)
    action := target.bind (·.2)
    source := (fieldValue fields "Source Location").map (relativeSource root) }

/-- The routes of blocks.  `last` is the helper of the blocks before. -/
def blockRoutes (root : Option Path) : Option String → List (List Char) → List Route
  | _, [] => []
  | last, block :: rest =>
    let fields := blockFields block
    if fields.isEmpty then blockRoutes root last rest
    else match (fieldValue fields "Prefix").or last with
      | none => blockRoutes root last rest
      | some helper => blockRoute root helper fields :: blockRoutes root (some helper) rest

/-- Reads a listing; declarations under `root` are shown from the root on. -/
def parseListing (root : Option Path) (output : String) : RouteTable :=
  .ofList (blockRoutes root none (blocks output.toList))

end HamlServer.Rails
