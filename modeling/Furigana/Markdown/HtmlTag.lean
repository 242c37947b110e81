import Furigana.Markdown.Source

/-!
# Raw HTML

Recognises what markdown passes through: tags, comments, processing instructions, declarations and
character data, and the line starts that make an HTML block.

A scanner takes the place behind the opening angle bracket and gives the place behind the construct.
Tags may go on in the next line; `newLine` gives the place where they do so, if they may.
-/

namespace Furigana.Markdown.HtmlTag

/-! ## Tags -/

/-- Skips white space over several lines. -/
def skipSpace? (s : Source) (newLine : Nat → Option Nat) (i : Nat) : Option Nat :=
  if i < s.size then
    if s.has isLineEnd i then
      match (s.lineEnd? i).bind newLine with
      | some j => if i < j then skipSpace? s newLine j else none
      | none => none
    else if s.has isInlineSpace i then skipSpace? s newLine (i + 1)
    else some i
  else some i
termination_by s.size - i
decreasing_by all_goals omega

/-- Whether a character may follow the first letter of a tag name. -/
def isNameChar (c : Char) : Bool := Text.isAsciiAlphanumeric c || c == '-'

/-- A tag name. -/
def name? (s : Source) (i : Nat) : Option Nat :=
  if s.has Text.isAsciiLetter i then some (s.skip isNameChar i) else none

/-- An attribute name. -/
def attributeName? (s : Source) (i : Nat) : Option Nat :=
  if s.has (fun c => Text.isAsciiLetter c || c == '_' || c == ':') i then
    some (s.skip (fun c => Text.isAsciiAlphanumeric c || ['_', '.', ':', '-'].contains c) i)
  else none

/-- What is left of a value in quotes, up to the closing one. -/
def quotedRest? (s : Source) (newLine : Nat → Option Nat) (quote : Char) (i : Nat) : Option Nat :=
  if i < s.size then
    if s.isAt quote i then some (i + 1)
    else if s.has isLineEnd i then
      match (s.lineEnd? i).bind newLine with
      | some j => if i < j then quotedRest? s newLine quote j else none
      | none => none
    else quotedRest? s newLine quote (i + 1)
  else none
termination_by s.size - i
decreasing_by all_goals omega

/-- Whether a character may stand in a value without quotes. -/
def isBareValueChar (c : Char) : Bool :=
  !(['"', '\'', ' ', '=', '<', '>', '\x60'].contains c || isLineEnd c)

/-- The value of an attribute, bare or in quotes. -/
def value? (s : Source) (newLine : Nat → Option Nat) (i : Nat) : Option Nat :=
  match s.char? i with
  | some '"' => quotedRest? s newLine '"' (i + 1)
  | some '\'' => quotedRest? s newLine '\'' (i + 1)
  | some c => if isBareValueChar c && c != '\t' then some (s.skip isBareValueChar i) else none
  | none => none

/-- An attribute: its name, and its value if an equals sign follows. -/
def attribute? (s : Source) (newLine : Nat → Option Nat) (i : Nat) : Option Nat :=
  (attributeName? s i).bind fun j =>
    (skipSpace? s newLine j).bind fun k =>
      if s.isAt '=' k then (skipSpace? s newLine (k + 1)).bind (value? s newLine) else some j

/-- The end of an opening tag behind its name: attributes, with white space before each of them. -/
def openingRest? (s : Source) (newLine : Nat → Option Nat) (i : Nat) : Option Nat :=
  match skipSpace? s newLine i with
  | none => none
  | some j =>
    if s.isAt '>' j then some (j + 1)
    else if s.isAt '/' j then if s.isAt '>' (j + 1) then some (j + 2) else none
    else if j ≤ i then none
    else
      match attribute? s newLine j with
      | some k => if i < k ∧ i < s.size then openingRest? s newLine k else none
      | none => none
termination_by s.size - i
decreasing_by omega

/-- A tag that opens or closes an element. -/
def tag? (s : Source) (newLine : Nat → Option Nat) (i : Nat) : Option Nat :=
  if s.isAt '/' i then
    (name? s (i + 1)).bind fun j =>
      let k := s.skip isInlineSpace j
      if s.isAt '>' k then some (k + 1) else none
  else (name? s i).bind (openingRest? s newLine)

/-! ## Other constructs inside a line -/

/-- What starts with an exclamation mark: a comment, character data or a declaration. -/
def marked? (s : Source) (i : Nat) : Option Nat :=
  match s.char? i with
  | some '-' => if s.isAt '-' (i + 1) then (s.find? "-->".toList i).map (· + 3) else none
  | some '[' =>
    if s.startsWith "CDATA[".toList (i + 1) then
      let j := s.skip (· != ']') (i + 7)
      let k := s.skip (· == ']') j
      if j < k && s.isAt '>' k then some (k + 1) else none
    else none
  | some c =>
    if Text.isAsciiLetter c then (s.find? ['>'] (i + 1)).map (· + 1) else none
  | none => none

/-- A comment, a processing instruction, a declaration or character data. -/
def instruction? (s : Source) (i : Nat) : Option Nat :=
  match s.char? i with
  | some '!' => marked? s (i + 1)
  | some '?' => (s.find? "?>".toList (i + 1)).map (· + 2)
  | _ => none

/-! ## Blocks -/

/-- The names of the elements that start a block of their own. -/
def blockNames : List String :=
  ["address", "article", "aside", "base", "basefont", "blockquote", "body", "caption", "center",
   "col", "colgroup", "dd", "details", "dialog", "dir", "div", "dl", "dt", "fieldset",
   "figcaption", "figure", "footer", "form", "frame", "frameset", "h1", "h2", "h3", "h4", "h5",
   "h6", "head", "header", "hr", "html", "iframe", "legend", "li", "link", "main", "menu",
   "menuitem", "nav", "noframes", "ol", "optgroup", "option", "p", "param", "search", "section",
   "summary", "table", "tbody", "td", "tfoot", "th", "thead", "title", "tr", "track", "ul"]

/-- The names of the elements whose content is not markup. -/
def rawNames : List String := ["pre", "style", "script", "textarea"]

/-- A name without regard to case. -/
def lowerName (t : Text) : String := String.ofList (t.map Char.toLower)

/-- The text that ends a block of raw content, if the line starts one. -/
def rawBlockEnd? (s : Source) (i : Nat) : Option Text :=
  let j := s.skip Text.isAsciiLetter i
  let name := lowerName (s.slice i j)
  if rawNames.contains name && (s.char? j).all (fun c => isSpace c || c == '>') then
    some ("</".toList ++ name.toList ++ ">".toList)
  else if s.startsWith "!--".toList i then some "-->".toList
  else if s.startsWith "?".toList i then some "?>".toList
  else if s.startsWith "![CDATA[".toList i then some "]]>".toList
  else if s.isAt '!' i && s.has Text.isAsciiLetter (i + 1) then some ">".toList
  else none

/-- Whether the line starts a block by the name of its element. -/
def startsNamedBlock (s : Source) (i : Nat) : Bool :=
  let i := if s.isAt '/' i then i + 1 else i
  let j := s.skip Text.isAsciiAlphanumeric i
  blockNames.contains (lowerName (s.slice i j))
    && ((s.char? j).all (fun c => isSpaceOrTab c || isLineEnd c || c == '>')
      || s.startsWith "/>".toList j)

/-- Whether the line is a single tag and nothing else. -/
def isLoneTag (s : Source) (i : Nat) : Bool := (tag? s (fun _ => none) i).any s.isBlank

end Furigana.Markdown.HtmlTag
