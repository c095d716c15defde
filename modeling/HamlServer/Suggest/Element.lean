import HamlServer.Editor.CompletionItem
import HamlServer.Text.Line
import HamlServer.Text.Word

/-!
Candidates for elements and their attributes.

Elements are offered while a tag's name is typed, attributes behind a tag whose list of attributes
has been opened.  The list is a hash in braces or an HTML list in parentheses, and the candidates are
written accordingly.
-/

namespace HamlServer.Suggest

open Text

/-- The elements of HTML. -/
def elements : List String := [
  "a", "abbr", "address", "area", "article", "aside", "audio",
  "b", "base", "bdi", "bdo", "blockquote", "body", "br", "button",
  "canvas", "caption", "cite", "code", "col", "colgroup",
  "data", "datalist", "dd", "del", "details", "dfn", "dialog", "div", "dl", "dt",
  "em", "embed",
  "fieldset", "figcaption", "figure", "footer", "form",
  "h1", "h2", "h3", "h4", "h5", "h6", "head", "header", "hgroup", "hr", "html",
  "i", "iframe", "img", "input", "ins",
  "kbd",
  "label", "legend", "li", "link",
  "main", "map", "mark", "meta", "meter",
  "nav", "noscript",
  "object", "ol", "optgroup", "option", "output",
  "p", "param", "picture", "pre", "progress",
  "q",
  "rp", "rt", "ruby",
  "s", "samp", "script", "section", "select", "small", "source", "span", "strong", "style",
  "sub", "summary", "sup", "svg",
  "table", "tbody", "td", "template", "textarea", "tfoot", "th", "thead", "time", "title",
  "tr", "track",
  "u", "ul",
  "var", "video",
  "wbr"]

/-- The characters of a tag's name. -/
def isTagNameChar (c : Char) : Bool := isNameChar c || c == ':'

/-- The characters of a tag with its classes and id. -/
def isTagChar (c : Char) : Bool := isTagNameChar c || c == '.' || c == '#'

/-- Whether a line ends inside the name of a tag. -/
def endsInTag (line : List Char) : Bool :=
  (line.reverse.dropWhile isTagNameChar).head? == some '%'

/-- The candidate for an element. -/
def elementItem (name : String) : CompletionItem where
  label := name
  kind := .keyword
  detail := some s!"HTML <{name}> element"
  insertion := some (.plain name)

/-- The elements, while a tag's name is typed. -/
def elementItems (line : List Char) : List CompletionItem :=
  if endsInTag line then elements.map elementItem else []

/-! ## Attributes -/

/-- The attributes of every element. -/
def globalAttributes : List String := [
  "id", "class", "style", "title", "data-", "aria-", "accesskey", "contenteditable", "dir",
  "draggable", "hidden", "lang", "spellcheck", "tabindex", "translate"]

/-- The further attributes of an element. -/
def attributesOf : String → List String
  | "a" => ["href", "target", "rel", "download", "hreflang", "type"]
  | "img" => ["src", "alt", "width", "height", "loading"]
  | "input" => ["type", "name", "value", "placeholder", "disabled", "required", "readonly",
    "checked", "autocomplete", "min", "max", "step", "pattern"]
  | "form" => ["action", "method", "enctype", "target", "autocomplete", "novalidate"]
  | "button" => ["type", "name", "value", "disabled", "formaction", "formmethod"]
  | "select" => ["name", "multiple", "size", "disabled", "required"]
  | "textarea" => ["name", "rows", "cols", "placeholder", "disabled", "required", "readonly",
    "maxlength"]
  | "label" => ["for"]
  | "link" => ["rel", "href", "type", "media"]
  | "meta" => ["name", "content", "charset", "http-equiv"]
  | "script" => ["src", "type", "async", "defer", "crossorigin", "integrity"]
  | "style" => ["type", "media"]
  | "iframe" => ["src", "width", "height", "name", "sandbox", "allow"]
  | "video" => ["src", "controls", "autoplay", "loop", "muted", "poster", "width", "height"]
  | "audio" => ["src", "controls", "autoplay", "loop", "muted"]
  | "table" => ["border", "cellpadding", "cellspacing"]
  | "td" => ["colspan", "rowspan", "headers"]
  | "th" => ["colspan", "rowspan", "scope", "headers"]
  | _ => []

/-- How the attributes of a tag are written: as a hash or as in HTML. -/
inductive ListStyle where
  | hash
  | html
  deriving DecidableEq, Repr

namespace ListStyle

/-- What stands between a name and a value. -/
def separator : ListStyle → String
  | .hash => ": "
  | .html => "="

/-- The snippet for a name that is only the beginning of one: the rest of the name is typed first,
and then the value. -/
def openSnippet (style : ListStyle) (name : String) : String :=
  match style with
  | .hash => s!"\"{name}$1\": $0"
  | .html => s!"{name}$1=$0"

end ListStyle

/-- The style of the list that is opened behind a tag at the front of a text. -/
def listStyleAt? : List Char → Option ListStyle
  | '%' :: r =>
    match r.takeWhile isTagChar, r.dropWhile isTagChar with
    | _ :: _, '\x7b' :: _ => some .hash
    | _ :: _, '(' :: _ => some .html
    | _, _ => none
  | _ => none

/-- The name of a tag at the front of a text. -/
def tagNameAt? : List Char → Option (List Char)
  | '%' :: r =>
    let name := r.takeWhile isTagNameChar
    if name.isEmpty then none else some name
  | _ => none

/-- The candidate for an attribute of every element. -/
def globalItem (style : ListStyle) (name : String) : CompletionItem where
  label := name
  kind := .property
  detail := some "HTML attribute"
  documentation := some s!"Global HTML attribute: {name}"
  insertion := some <|
    if name.toList.getLast? = some '-' then .snippet (style.openSnippet name)
    else .plain (name ++ style.separator)

/-- The candidate for an attribute of an element. -/
def attributeItem (style : ListStyle) (element name : String) : CompletionItem where
  label := name
  kind := .property
  detail := some s!"{element} attribute"
  documentation := some s!"Attribute for <{element}> element"
  insertion := some (.plain (name ++ style.separator))

/-- The attributes, behind a tag with an open list of them.  The element is the first one that the
line names. -/
def attributeItems (line : List Char) : List CompletionItem :=
  match findMatch listStyleAt? line with
  | none => []
  | some style =>
    let own := match findMatch tagNameAt? line with
      | none => []
      | some name =>
        let element := String.ofList name
        (attributesOf element).map (attributeItem style element)
    globalAttributes.map (globalItem style) ++ own

end HamlServer.Suggest
