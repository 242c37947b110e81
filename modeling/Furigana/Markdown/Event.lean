import Furigana.Text

/-!
# Markdown events

A document is the sequence of the elements that are entered and left and of the content between them.
Each event has a span, the bytes of the source that it stands for.

Some extensions of markdown are never switched on here: mathematics, footnotes, definition lists, super-
and subscripts, and metadata.  A stream from elsewhere may hold them, and to the notation they are all
alike, so one `extension` stands for whatever they add, under the name of its kind.
-/

namespace Furigana.Markdown

/-- The kinds of a block quote that is an alert. -/
inductive AlertKind where
  | note
  | tip
  | important
  | warning
  | caution
deriving DecidableEq, Repr

/-- How the cells of a table column are aligned. -/
inductive ColumnAlignment where
  | unset
  | left
  | center
  | right
deriving DecidableEq, Repr

/-- An element with what its start says about it. -/
inductive Tag where
  | paragraph
  | heading (level : Nat)
  | blockQuote (kind : Option AlertKind)
  /-- A code block, with its info string if it is fenced. -/
  | codeBlock (info : Option Text)
  | htmlBlock
  /-- A list, with the number of its first item if it is ordered. -/
  | list (start : Option Nat)
  | item
  | table (columns : List ColumnAlignment)
  | tableHead
  | tableRow
  | tableCell
  | emphasis
  | strong
  | strikethrough
  | link (email : Bool) (target title : Text)
  | image (target title : Text)
  | extension (kind : Text)
deriving DecidableEq, Repr

/-- An element as its end names it. -/
inductive TagEnd where
  | paragraph
  | heading (level : Nat)
  | blockQuote (kind : Option AlertKind)
  | codeBlock
  | htmlBlock
  | list (ordered : Bool)
  | item
  | table
  | tableHead
  | tableRow
  | tableCell
  | emphasis
  | strong
  | strikethrough
  | link
  | image
  | extension (kind : Text)
deriving DecidableEq, Repr

/-- The end that belongs to a start. -/
def Tag.toEnd : Tag → TagEnd
  | .paragraph => .paragraph
  | .heading level => .heading level
  | .blockQuote kind => .blockQuote kind
  | .codeBlock _ => .codeBlock
  | .htmlBlock => .htmlBlock
  | .list start => .list start.isSome
  | .item => .item
  | .table _ => .table
  | .tableHead => .tableHead
  | .tableRow => .tableRow
  | .tableCell => .tableCell
  | .emphasis => .emphasis
  | .strong => .strong
  | .strikethrough => .strikethrough
  | .link _ _ _ => .link
  | .image _ _ => .image
  | .extension kind => .extension kind

/-- A step through a document. -/
inductive Event where
  | enter (tag : Tag)
  | leave (tag : TagEnd)
  | text (content : Text)
  | code (content : Text)
  | html (content : Text)
  | inlineHtml (content : Text)
  | softBreak
  | hardBreak
  | rule
  | taskMarker (checked : Bool)
  | extension (kind content : Text)
deriving DecidableEq, Repr

/-- The bytes from `start` up to `stop` of a source. -/
structure Span where
  start : Nat
  stop : Nat
deriving DecidableEq, Repr

/-- An event and the source it stands for.  Only the spans of texts are ever looked at. -/
abbrev Sited := Event × Span

end Furigana.Markdown
