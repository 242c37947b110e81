import Furigana.Markdown.Inline

/-!
# Blocks

The block structure of a document: containers with blocks in them, and leaves whose content is still to
be read, or plain text.
-/

namespace Furigana.Markdown

/-- A block with everything in it. -/
inductive Block where
  | quote (kind : Option AlertKind) (blocks : List Block)
  /-- A list of items.  The paragraphs of a tight one are not marked as such. -/
  | list (start : Option Nat) (tight : Bool) (items : List Block)
  | item (blocks : List Block)
  /-- A paragraph, with the check box in front of it if it has one. -/
  | paragraph (task : Option Bool) (content : Content)
  /-- The check box of an item that starts with nothing else. -/
  | task (checked : Bool)
  /-- A heading, with the check box in front of it if it has one. -/
  | heading (level : Nat) (task : Option Bool) (content : Content)
  /-- Code, with its info string if it is fenced. -/
  | code (info : Option Text) (content : Text)
  /-- Raw HTML: lines with the spaces in front of each. -/
  | html (lines : List (Nat × Text))
  | rule
  /-- A table with its rows, each cut or filled up to the columns. -/
  | table (columns : List ColumnAlignment) (head : List Content) (rows : List (List Content))

end Furigana.Markdown
