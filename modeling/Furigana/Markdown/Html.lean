import Furigana.Markdown.Event
import Furigana.Text.Html

/-!
# Documents as HTML

Writes the events of a document as HTML, block elements on lines of their own.  A `Writer` holds what
has been written and what later events depend on: whether a line has just ended, the table being
written, and whether an image's description is being collected.  A document that is written comes from
`parse`, which yields no extension, so nothing is written for one.
-/

namespace Furigana.Markdown

/-- The table being written. -/
structure TableState where
  columns : List ColumnAlignment
  inHead : Bool
  cell : Nat

/-- The description of an image being collected: the elements open in it, and the image's title. -/
structure Description where
  nesting : Nat
  title : Text

/-- HTML in the making. -/
structure Writer where
  /-- What has been written, latest first. -/
  chunks : List Text
  /-- Whether a line has just ended. -/
  atLineStart : Bool
  table : TableState
  description : Option Description

namespace Writer

/-- A writer that has written nothing. -/
def empty : Writer := ⟨[], true, ⟨[], false, 0⟩, none⟩

/-- What has been written. -/
def toText (w : Writer) : Text := w.chunks.reverse.flatten

/-- Writes a text. -/
def write (w : Writer) (t : Text) : Writer :=
  match t.getLast? with
  | none => w
  | some c => { w with chunks := t :: w.chunks, atLineStart := c == '\n' }

/-- Writes fixed markup. -/
def put (w : Writer) (s : String) : Writer := w.write s.toList

/-- Writes escaped content, whose own last character decides whether a line has ended. -/
def content (w : Writer) (escape : Text → Text) (t : Text) : Writer :=
  { w with chunks := escape t :: w.chunks, atLineStart := t.getLast? == some '\n' }

/-- Ends the line if it has not ended. -/
def newLine (w : Writer) : Writer := if w.atLineStart then w else w.put "\n"

/-- The class of an alert. -/
def alertClass : AlertKind → String
  | .note => " class=\"markdown-alert-note\""
  | .tip => " class=\"markdown-alert-tip\""
  | .important => " class=\"markdown-alert-important\""
  | .warning => " class=\"markdown-alert-warning\""
  | .caution => " class=\"markdown-alert-caution\""

/-- The style of a cell. -/
def alignmentStyle : ColumnAlignment → String
  | .unset => ">"
  | .left => " style=\"text-align: left\">"
  | .center => " style=\"text-align: center\">"
  | .right => " style=\"text-align: right\">"

/-- The first word of an info string, which names a language. -/
def language (info : Text) : Text := info.takeWhile (· != ' ')

/-- Writes a title attribute, unless the title is empty, up to its closing quote. -/
def title (w : Writer) (t : Text) : Writer :=
  if t.isEmpty then w else (w.put "\" title=\"").write t.escapeAttribute

/-- Writes the start of an element. -/
def enter (w : Writer) : Tag → Writer
  | .paragraph => w.newLine.put "<p>"
  | .heading level => ((w.newLine.put "<h").write (Text.decimal level)).put ">"
  | .blockQuote kind => ((w.newLine.put "<blockquote").put ((kind.map alertClass).getD "")).put ">\n"
  | .codeBlock info =>
    match language (info.getD []) with
    | [] => w.newLine.put "<pre><code>"
    | name => ((w.newLine.put "<pre><code class=\"language-").write name.escapeAttribute).put "\">"
  | .htmlBlock => w
  | .list none => w.newLine.put "<ul>\n"
  | .list (some 1) => w.newLine.put "<ol>\n"
  | .list (some start) => ((w.newLine.put "<ol start=\"").write (Text.decimal start)).put "\">\n"
  | .item => w.newLine.put "<li>"
  | .table columns => { w with table := { w.table with columns := columns } }.put "<table>"
  | .tableHead => { w with table := { w.table with inHead := true, cell := 0 } }.put "<thead><tr>"
  | .tableRow => { w with table := { w.table with cell := 0 } }.put "<tr>"
  | .tableCell =>
    (w.put (if w.table.inHead then "<th" else "<td")).put
      (alignmentStyle ((w.table.columns[w.table.cell]?).getD .unset))
  | .emphasis => w.put "<em>"
  | .strong => w.put "<strong>"
  | .strikethrough => w.put "<del>"
  | .link email target title =>
    (((w.put (if email then "<a href=\"mailto:" else "<a href=\"")).write
      target.escapeAddress).title title).put "\">"
  | .image target title =>
    { ((w.put "<img src=\"").write target.escapeAddress).put "\" alt=\"" with
      description := some ⟨0, title⟩ }
  | .extension _ => w

/-- Writes the end of an element. -/
def leave (w : Writer) : TagEnd → Writer
  | .paragraph => w.put "</p>\n"
  | .heading level => ((w.put "</h").write (Text.decimal level)).put ">\n"
  | .blockQuote _ => w.put "</blockquote>\n"
  | .codeBlock => w.put "</code></pre>\n"
  | .htmlBlock => w
  | .list true => w.put "</ol>\n"
  | .list false => w.put "</ul>\n"
  | .item => w.put "</li>\n"
  | .table => w.put "</tbody></table>\n"
  | .tableHead =>
    { w with table := { w.table with inHead := false } }.put "</tr></thead><tbody>\n"
  | .tableRow => w.put "</tr>\n"
  | .tableCell =>
    { w with table := { w.table with cell := w.table.cell + 1 } }.put
      (if w.table.inHead then "</th>" else "</td>")
  | .emphasis => w.put "</em>"
  | .strong => w.put "</strong>"
  | .strikethrough => w.put "</del>"
  | .link => w.put "</a>"
  | .image | .extension _ => w

/-- Writes an event in the description of an image, where only text counts.  The end of the image
closes the element. -/
def describe (w : Writer) (d : Description) : Event → Writer
  | .enter _ => { w with description := some { d with nesting := d.nesting + 1 } }
  | .leave _ =>
    match d.nesting with
    | 0 => ({ w with description := none }.title d.title).put "\" />"
    | n + 1 => { w with description := some { d with nesting := n } }
  | .text t | .code t | .inlineHtml t => w.content Text.escapeAttribute t
  | .html _ | .extension _ _ => w
  | .softBreak | .hardBreak | .rule => w.put " "
  | .taskMarker checked => w.put (if checked then "[x]" else "[ ]")

/-- Writes an event outside any description. -/
def event (w : Writer) : Event → Writer
  | .enter tag => w.enter tag
  | .leave tag => w.leave tag
  | .text t => w.content Text.escapeBody t
  | .code t => ((w.put "<code>").content Text.escapeBody t).put "</code>"
  | .html t | .inlineHtml t => w.write t
  | .softBreak => w.put "\n"
  | .hardBreak => w.put "<br />\n"
  | .rule => w.newLine.put "<hr />\n"
  | .taskMarker checked =>
    w.put (if checked then "<input disabled=\"\" type=\"checkbox\" checked=\"\"/>\n"
      else "<input disabled=\"\" type=\"checkbox\"/>\n")
  | .extension _ _ => w

/-- Writes the next event of a document. -/
def next (w : Writer) (e : Event) : Writer :=
  match w.description with
  | some d => w.describe d e
  | none => w.event e

end Writer

/-- A document as HTML. -/
def toHtml (events : List Event) : Text := (events.foldl Writer.next .empty).toText

end Furigana.Markdown
