import HamlServer.Locate.Definition
import HamlServer.Proofs.Files.Path
import HamlServer.Proofs.Rails.Table
import HamlServer.Proofs.Text.Cut
import HamlServer.Proofs.Text.Ink

/-!
# The action that the helper of a route leads to

The name of a route has an ending behind it where it is used as a helper.  Its controller names a
file, its action a line of that file.  The search for the line tries every way to divide the white
space behind the keyword; what it comes to is said here without any search, as the parts of the line.

* `helperRoute?_eq_some_iff`: the name that a helper belongs to.
* `definesAction_iff`: the lines that define an action.
* `controllerFile_eq`: the file of a controller.
* `helperDefinitions_exact`: where each word leads.
-/

namespace HamlServer

namespace Locate

open Text

variable {action line name word s t : List Char}

/-! ## The name of a helper -/

/-- A word is the helper of a name: the name with one of the two endings behind it.  A name stands on
one line and is not empty; it may itself end like a helper. -/
structure HelperOf (name word : List Char) : Prop where
  ne_nil : name ≠ []
  one_line : '\n' ∉ name
  word_eq : word = name ++ "_path".toList ∨ word = name ++ "_url".toList

/-- No word has both endings. -/
theorem append_path_ne_append_url (a b : List Char) :
    a ++ "_path".toList ≠ b ++ "_url".toList := by
  intro h
  have hlast : (a ++ "_path".toList).getLast? = (b ++ "_url".toList).getLast? := by rw [h]
  rw [List.getLast?_append, List.getLast?_append] at hlast
  have hchar : some 'h' = some 'l' := hlast
  cases hchar

theorem findSome?_ending (word : List Char) :
    (["_path", "_url"].findSome? fun tail => dropEnd? tail.toList word) = some name ↔
      word = name ++ "_path".toList ∨ word = name ++ "_url".toList := by
  rw [List.findSome?_cons, List.findSome?_cons, List.findSome?_nil]
  cases hpath : dropEnd? "_path".toList word with
  | some front =>
    obtain rfl := dropEnd?_eq_some_iff.1 hpath
    constructor
    · intro h
      exact Or.inl (by rw [Option.some.inj h])
    · rintro (h | h)
      · rw [List.append_cancel_right h]
      · exact absurd h (append_path_ne_append_url front name)
  | none =>
    have hno : word ≠ name ++ "_path".toList := by
      intro h
      rw [dropEnd?_eq_some_iff.2 h] at hpath
      cases hpath
    rw [or_iff_right hno, ← dropEnd?_eq_some_iff]
    cases dropEnd? "_url".toList word <;> rfl

/-- The name that a helper belongs to. -/
theorem helperRoute?_eq_some_iff : helperRoute? word = some name ↔ HelperOf name word := by
  rw [helperRoute?, Option.filter_eq_some_iff, findSome?_ending]
  have hkept : (!name.isEmpty && !name.contains '\n') = true ↔ name ≠ [] ∧ '\n' ∉ name := by
    simp
  rw [hkept]
  constructor
  · rintro ⟨hword, hne, hline⟩
    exact ⟨hne, hline, hword⟩
  · intro h
    exact ⟨h.word_eq, h.ne_nil, h.one_line⟩

/-! ## The line of an action -/

/-- What may stand behind a name: nothing, or white space or an opening parenthesis first. -/
def EndsName (s : List Char) : Prop := ∀ c ∈ s.head?, isBlank c = true ∨ c = '('

/-- A line that defines an action, by its parts: white space, the keyword and white space, perhaps
the object itself and a dot, and the action as it is written. -/
def Defines (action line : List Char) : Prop :=
  ∃ indent gap self tail, isBlankText indent = true ∧ gap ≠ [] ∧ isBlankText gap = true ∧
    (self = [] ∨ self = "self.".toList) ∧ EndsName tail ∧
    line = indent ++ ("def".toList ++ (gap ++ (self ++ (action ++ tail))))

theorem endsName_nil : EndsName [] := by
  intro c hc
  cases hc

theorem endsName_cons {c : Char} : EndsName (c :: s) ↔ isBlank c = true ∨ c = '(' := by
  constructor
  · intro h
    exact h c rfl
  · intro h x hx
    obtain rfl : c = x := Option.some.inj hx
    exact h

theorem isName_iff : isName action s = true ↔ ∃ tail, EndsName tail ∧ s = action ++ tail := by
  rw [isName]
  cases hdrop : dropStart? action s with
  | none =>
    constructor
    · intro h
      cases h
    · rintro ⟨tail, -, rfl⟩
      rw [dropStart?_eq_some_iff.2 rfl] at hdrop
      cases hdrop
  | some r =>
    obtain rfl := dropStart?_eq_some_iff.1 hdrop
    cases r with
    | nil => exact iff_of_true rfl ⟨[], endsName_nil, rfl⟩
    | cons c r =>
      show (isBlank c || c == '(') = true ↔ _
      rw [Bool.or_eq_true, beq_iff_eq]
      constructor
      · intro h
        exact ⟨c :: r, endsName_cons.2 h, rfl⟩
      · rintro ⟨tail, htail, heq⟩
        obtain rfl := List.append_cancel_left heq
        exact endsName_cons.1 htail

/-- The texts that are tried behind a word are those that white space parts from it. -/
theorem mem_afterBlank_iff :
    t ∈ afterBlank s ↔ ∃ gap, gap ≠ [] ∧ isBlankText gap = true ∧ s = gap ++ t := by
  unfold afterBlank
  rw [List.mem_map]
  constructor
  · rintro ⟨n, hn, rfl⟩
    rw [List.mem_range] at hn
    have htake : s.take (n + 1) = (leading s).take (n + 1) := by
      conv_lhs => rw [← leading_append_trimStart s]
      exact List.take_append_of_le_length hn
    refine ⟨s.take (n + 1), ?_, ?_, (List.take_append_drop (n + 1) s).symm⟩
    · rw [htake]
      intro hnil
      have hlength := congrArg List.length hnil
      rw [List.length_take, List.length_nil] at hlength
      omega
    · rw [htake, isBlankText, List.all_eq_true]
      intro c hc
      exact List.all_eq_true.1 (isBlankText_leading s) c (List.mem_of_mem_take hc)
  · rintro ⟨gap, hne, hgap, rfl⟩
    have hpos : 0 < gap.length := List.length_pos_of_ne_nil hne
    refine ⟨gap.length - 1, ?_, ?_⟩
    · rw [List.mem_range, leading_append hgap, List.length_append]
      omega
    · rw [Nat.sub_add_cancel hpos, List.drop_left]

/-- The lines that define an action. -/
theorem definesAction_iff : definesAction action line = true ↔ Defines action line := by
  rw [definesAction]
  constructor
  · intro h
    cases hdef : dropStart? "def".toList (trimStart line) with
    | none =>
      rw [hdef] at h
      cases h
    | some r =>
      rw [hdef] at h
      obtain ⟨s, hs, hname⟩ := List.any_eq_true.1 h
      obtain ⟨gap, hne, hgap, rfl⟩ := mem_afterBlank_iff.1 hs
      have hline : line = leading line ++ ("def".toList ++ (gap ++ s)) := by
        rw [← dropStart?_eq_some_iff.1 hdef, leading_append_trimStart]
      rcases Bool.or_eq_true_iff.1 hname with hname | hname
      · obtain ⟨tail, htail, rfl⟩ := isName_iff.1 hname
        exact ⟨leading line, gap, [], tail, isBlankText_leading line, hne, hgap, Or.inl rfl, htail,
          hline⟩
      · cases hself : dropStart? "self.".toList s with
        | none =>
          rw [hself] at hname
          cases hname
        | some r =>
          rw [hself] at hname
          obtain ⟨tail, htail, rfl⟩ := isName_iff.1 hname
          obtain rfl := dropStart?_eq_some_iff.1 hself
          exact ⟨leading line, gap, "self.".toList, tail, isBlankText_leading line, hne, hgap,
            Or.inr rfl, htail, hline⟩
  · rintro ⟨indent, gap, self, tail, hindent, hne, hgap, hself, htail, rfl⟩
    have htrim : trimStart (indent ++ ("def".toList ++ (gap ++ (self ++ (action ++ tail))))) =
        "def".toList ++ (gap ++ (self ++ (action ++ tail))) := by
      rw [trimStart_append hindent]
      exact StartsInk.trimStart_eq (startsInk_cons.2 (by decide))
    rw [htrim, dropStart?_eq_some_iff.2 rfl]
    refine List.any_eq_true.2 ⟨self ++ (action ++ tail), mem_afterBlank_iff.2 ⟨gap, hne, hgap, rfl⟩,
      ?_⟩
    rw [Bool.or_eq_true]
    rcases hself with rfl | rfl
    · exact Or.inl (isName_iff.2 ⟨tail, htail, rfl⟩)
    · refine Or.inr ?_
      rw [dropStart?_eq_some_iff.2 rfl]
      exact isName_iff.2 ⟨tail, htail, rfl⟩

/-! ## The file of a controller -/

/-- The file of a controller, by its path from the root of the project. -/
theorem controllerFile_eq (root : Path) {controller : String}
    (h : controller.toList.head? ≠ some '/') :
    controllerFile root controller =
      root.child ("app/controllers/" ++ controller ++ "_controller.rb") := by
  have hfile : (Path.ofString (controller ++ "_controller.rb")).isAbsolute = false := by
    rw [Path.isAbsolute_ofString, String.toList_append]
    cases hc : controller.toList with
    | nil => rfl
    | cons c r =>
      rw [hc] at h
      exact beq_false_of_ne h
  have hfolders : (root.child "app").child "controllers" = root.child "app/controllers" :=
    Path.join_join root (by decide) rfl rfl
  have htext : Path.ofString ("app/controllers/" ++ controller ++ "_controller.rb") =
      ⟨(Path.ofString "app/controllers").octets ++
        slash :: (Path.ofString (controller ++ "_controller.rb")).octets⟩ := by
    show Path.mk _ = Path.mk _
    rw [String.append_assoc, Utf8.encode_append]
    show Path.mk ((Utf8.encode "app/controllers" ++ [slash]) ++ _) = _
    rw [List.append_assoc]
    rfl
  rw [controllerFile, hfolders, Path.child, Path.child, Path.child, htext]
  exact Path.join_join root (by decide) rfl hfile

/-! ## The place of an action -/

/-- The first of the lines that defines an action. -/
def FirstDefined (action : List Char) (lines : List (List Char)) (n : Nat) : Prop :=
  (∃ line, lines[n]? = some line ∧ Defines action line) ∧
    ∀ i < n, ∀ line, lines[i]? = some line → ¬ Defines action line

theorem findIdx?_definesAction_eq_some_iff {lines : List (List Char)} {n : Nat} :
    lines.findIdx? (definesAction action) = some n ↔ FirstDefined action lines n := by
  rw [List.findIdx?_eq_some_iff_getElem]
  constructor
  · rintro ⟨hn, hdef, hfirst⟩
    refine ⟨⟨lines[n], List.getElem?_eq_getElem hn, definesAction_iff.1 hdef⟩, ?_⟩
    intro i hi line hline hdef
    obtain ⟨hlt, rfl⟩ := List.getElem?_eq_some_iff.1 hline
    exact hfirst i hi (definesAction_iff.2 hdef)
  · rintro ⟨⟨line, hline, hdef⟩, hfirst⟩
    obtain ⟨hn, rfl⟩ := List.getElem?_eq_some_iff.1 hline
    refine ⟨hn, definesAction_iff.2 hdef, ?_⟩
    intro i hi hdef
    exact hfirst i hi _ (List.getElem?_eq_getElem (Nat.lt_trans hi hn)) (definesAction_iff.1 hdef)

theorem findIdx?_definesAction_eq_none_iff {lines : List (List Char)} :
    lines.findIdx? (definesAction action) = none ↔ ∀ line ∈ lines, ¬ Defines action line := by
  rw [List.findIdx?_eq_none_iff]
  constructor
  · intro h line hline hdef
    have hno := h line hline
    rw [definesAction_iff.2 hdef] at hno
    cases hno
  · intro h line hline
    rw [Bool.eq_false_iff]
    exact fun hdef => h line hline (definesAction_iff.1 hdef)

/-- The line that the helper of a route leads to is looked for in the file of its controller. -/
theorem actionLine?_eq (d : Directory) (root : Path) {tbl : RouteTable} {r : Route}
    {controller act : String} (hd : tbl.helpers.Nodup) (hr : r ∈ tbl.routes)
    (hcontroller : r.controller = some controller) (haction : r.action = some act)
    (hword : HelperOf r.helper.toList word) :
    actionLine? d root tbl word = (d.readText? (controllerFile root controller)).bind fun content =>
      (((lines content.toList).findIdx? (definesAction act.toList)).filter (· < UInt32.size)).bind
        fun n => some (controllerFile root controller, n) := by
  have hget : tbl.get? (String.ofList r.helper.toList) = some r := by
    rw [String.ofList_toList]
    exact (RouteTable.get?_eq_some_iff hd).2 ⟨hr, rfl⟩
  rw [actionLine?, helperRoute?_eq_some_iff.2 hword]
  show (tbl.get? (String.ofList r.helper.toList)).bind _ = _
  rw [hget]
  show r.controller.bind _ = _
  rw [hcontroller]
  show r.action.bind _ = _
  rw [haction]
  rfl

/-- A word that is the helper of no route with a controller and an action leads nowhere. -/
theorem actionLine?_eq_none {tbl : RouteTable} (d : Directory) (root : Path)
    (h : ∀ r ∈ tbl.routes, r.controller.isSome → r.action.isSome →
      ¬ HelperOf r.helper.toList word) : actionLine? d root tbl word = none := by
  rw [Option.eq_none_iff_forall_ne_some]
  intro found hfound
  rw [actionLine?, Option.bind_eq_bind, Option.bind_eq_some_iff] at hfound
  obtain ⟨name, hname, hfound⟩ := hfound
  obtain ⟨r, hget, hfound⟩ := Option.bind_eq_some_iff.1 hfound
  obtain ⟨controller, hcontroller, hfound⟩ := Option.bind_eq_some_iff.1 hfound
  obtain ⟨act, haction, -⟩ := Option.bind_eq_some_iff.1 hfound
  have hhelper : r.helper = String.ofList name := by simpa using List.find?_some hget
  refine h r (List.mem_of_find?_eq_some hget) ?_ ?_ ?_
  · rw [hcontroller]
    rfl
  · rw [haction]
    rfl
  · rw [hhelper, String.toList_ofList]
    exact helperRoute?_eq_some_iff.1 hname

end Locate

namespace Workspace

open Text Locate

variable {word : List Char}

theorem helperDefinitions_of_some {d : Directory} {root file : Path} {t : RouteTable} {n : Nat}
    (h : actionLine? d root t word = some (file, n)) (habs : file.isAbsolute = true) :
    ∃ uri, Url.ofPath? file = some uri ∧
      helperDefinitions d root t word = [⟨uri, .lineStart (UInt32.ofNat n)⟩] := by
  rw [← Url.isSome_ofPath?] at habs
  obtain ⟨uri, huri⟩ := Option.isSome_iff_exists.1 habs
  refine ⟨uri, huri, ?_⟩
  have hplace : locationOf? file n = some ⟨uri, .lineStart (UInt32.ofNat n)⟩ := by
    rw [locationOf?, huri, Option.map_some]
  simp only [helperDefinitions, h, Option.toList_some, List.filterMap_cons, hplace,
    List.filterMap_nil]

theorem helperDefinitions_of_none {d : Directory} {root : Path} {t : RouteTable}
    (h : actionLine? d root t word = none) : helperDefinitions d root t word = [] := by
  rw [helperDefinitions, h]
  rfl

/-- **The helper of a route leads to the first line that defines its action, and other words lead
nowhere.** -/
theorem helperDefinitions_exact (d : Directory) (root : Path) (habs : root.isAbsolute = true)
    (rs : List Route) (word : List Char) :
    (∀ r ∈ (RouteTable.ofList rs).routes, ∀ controller action,
      r.controller = some controller → r.action = some action →
      controller.toList.head? ≠ some '/' → HelperOf r.helper.toList word →
      ∀ file, file = root.child ("app/controllers/" ++ controller ++ "_controller.rb") →
        (d.readText? file = none →
          helperDefinitions d root (.ofList rs) word = []) ∧
        ∀ content, d.readText? file = some content →
          ((∀ line ∈ lines content.toList, ¬ Defines action.toList line) →
            helperDefinitions d root (.ofList rs) word = []) ∧
          ∀ n, FirstDefined action.toList (lines content.toList) n →
            (n < UInt32.size → ∃ uri, Url.ofPath? file = some uri ∧
              helperDefinitions d root (.ofList rs) word =
                [⟨uri, .lineStart (UInt32.ofNat n)⟩]) ∧
            (UInt32.size ≤ n → helperDefinitions d root (.ofList rs) word = [])) ∧
    ((∀ r ∈ (RouteTable.ofList rs).routes, r.controller.isSome → r.action.isSome →
        ¬ HelperOf r.helper.toList word) →
      helperDefinitions d root (.ofList rs) word = []) := by
  constructor
  · intro r hr controller action hcontroller haction hrel hword file hfile
    have hnodup := RouteTable.nodup_helpers_ofList rs
    have hline := actionLine?_eq d root hnodup hr hcontroller haction hword
    rw [controllerFile_eq root hrel, ← hfile] at hline
    refine ⟨?_, fun content hcontent => ⟨?_, fun n hfirst => ⟨?_, ?_⟩⟩⟩
    · intro hnone
      rw [hnone] at hline
      exact helperDefinitions_of_none hline
    · intro hno
      rw [hcontent, Option.bind_some, findIdx?_definesAction_eq_none_iff.2 hno] at hline
      exact helperDefinitions_of_none hline
    · intro hn
      have hfits : decide (n < UInt32.size) = true := decide_eq_true hn
      have hfileabs : file.isAbsolute = true := by
        rw [hfile]
        exact Path.isAbsolute_join habs _
      rw [hcontent, Option.bind_some, findIdx?_definesAction_eq_some_iff.2 hfirst,
        Option.filter_some, if_pos hfits] at hline
      exact helperDefinitions_of_some hline hfileabs
    · intro hn
      have hfits : ¬ decide (n < UInt32.size) = true := by
        rw [decide_eq_true_eq]
        omega
      rw [hcontent, Option.bind_some, findIdx?_definesAction_eq_some_iff.2 hfirst,
        Option.filter_some, if_neg hfits] at hline
      exact helperDefinitions_of_none hline
  · intro hno
    exact helperDefinitions_of_none (actionLine?_eq_none d root hno)

/-- A route whose name ends like a helper, and an action with a character that is special in a
pattern. -/
def nestedRoute : Route :=
  { helper := "admin_path", controller := some "admin/users", action := some "a.b" }

/-- A controller with an action that the name of another one begins with. -/
def nestedFiles : Directory where
  tree := FileTree.empty.write (["p", "app", "controllers", "admin", "users_controller.rb"].map
    Utf8.encode) (Utf8.encode "class C\n  def a.bc\n  def axb\n  def self.a.b(x)\n  def a.b\n")
  cwd := []

/-- The helper of such a route leads to the action itself. -/
theorem helperDefinitions_exact_nested :
    helperDefinitions nestedFiles (.ofString "/p") (.ofList [nestedRoute]) "admin_path_url".toList =
      [⟨"file:///p/app/controllers/admin/users_controller.rb", .lineStart 3⟩] := by
  have hfile : Url.ofPath? ((Path.ofString "/p").child
      ("app/controllers/" ++ "admin/users" ++ "_controller.rb")) =
        some "file:///p/app/controllers/admin/users_controller.rb" := by rfl
  have hcontent : nestedFiles.readText? ((Path.ofString "/p").child
      ("app/controllers/" ++ "admin/users" ++ "_controller.rb")) =
        some "class C\n  def a.bc\n  def axb\n  def self.a.b(x)\n  def a.b\n" := by rfl
  have hfirst : FirstDefined "a.b".toList
      (lines "class C\n  def a.bc\n  def axb\n  def self.a.b(x)\n  def a.b\n".toList) 3 := by
    rw [← findIdx?_definesAction_eq_some_iff]
    decide
  obtain ⟨uri, huri, h⟩ := (((((helperDefinitions_exact nestedFiles (.ofString "/p") (by decide)
    [nestedRoute] "admin_path_url".toList).1 nestedRoute (by decide) "admin/users" "a.b" rfl rfl
      (by decide) ⟨by decide, by decide, by decide⟩ _ rfl).2 _ hcontent).2 3 hfirst).1 (by decide))
  rw [hfile] at huri
  rw [h, ← Option.some.inj huri]
  rfl

/-- A route whose controller has the given name and one action. -/
def indexRoute (helper controller : String) : Route :=
  { helper := helper, controller := some controller, action := some "index" }

/-- A project whose one controller has the given content. -/
def postsFiles (content : Bytes) : Directory where
  tree := FileTree.empty.write (["p", "app", "controllers", "posts_controller.rb"].map Utf8.encode)
    content
  cwd := []

/-- A controller in an old encoding. -/
def latinController : Bytes := Utf8.encode "# caf" ++ 0xE9 :: Utf8.encode "\ndef index\n"

/-- A controller with an action in its first line. -/
def plainController : Bytes := Utf8.encode "def index\n"

/-- A file with octets that spell no text leads nowhere, whatever its lines are; nor does a
controller that is an absolute path by itself, a project that is not, or a name that goes over two
lines. -/
theorem not_helperDefinitions_exact :
    ((postsFiles latinController).tree.read? []
        (.ofString "/p/app/controllers/posts_controller.rb") = some latinController ∧
      helperDefinitions (postsFiles latinController) (.ofString "/p")
        (.ofList [indexRoute "posts" "posts"]) "posts_path".toList = []) ∧
    ((postsFiles plainController).readText?
        (.ofString "/p/app/controllers//posts_controller.rb") = some "def index\n" ∧
      helperDefinitions (postsFiles plainController) (.ofString "/p")
        (.ofList [indexRoute "posts" "/posts"]) "posts_path".toList = []) ∧
    ((postsFiles plainController).readText?
        (.ofString "p/app/controllers/posts_controller.rb") = some "def index\n" ∧
      helperDefinitions (postsFiles plainController) (.ofString "p")
        (.ofList [indexRoute "posts" "posts"]) "posts_path".toList = []) ∧
    ((postsFiles plainController).readText?
        (.ofString "/p/app/controllers/posts_controller.rb") = some "def index\n" ∧
      helperDefinitions (postsFiles plainController) (.ofString "/p")
        (.ofList [indexRoute "a\nb" "posts"]) "a\nb_path".toList = []) := by
  refine ⟨⟨?_, ?_⟩, ⟨?_, ?_⟩, ⟨?_, ?_⟩, ?_, ?_⟩ <;> rfl

end Workspace

end HamlServer
