import Furigana.Markdown.Annotation
import Furigana.Markdown.Block.Builder
import Furigana.Markdown.Html

/-!
# Documents

Reads a source as markdown — with tables, strikethrough, check boxes and alerts — and writes it as HTML,
with the notation in its text converted.

* `parse` — the events of a source;
* `renderHtml` — its HTML.
-/

namespace Furigana.Markdown

/-- The events of a line of raw HTML.  The spaces in front of it are text. -/
def htmlEvents (line : Nat × Text) : List Sited :=
  (if line.1 = 0 then [] else [(.text (List.replicate line.1 ' '), ⟨0, 0⟩)])
    ++ [(.html line.2, ⟨0, 0⟩)]

/-- The events of a content with the check box in front of it. -/
def boxedEvents (s : Source) (references : References) (task : Option Bool) (content : Content)
    (allowance : Nat) : List Sited × Nat :=
  let box : List Sited := (task.map fun checked => (.taskMarker checked, ⟨0, 0⟩)).toList
  let (events, allowance) := content.events s references allowance
  (box ++ events, allowance)

/-- The events of a table cell. -/
def cellEvents (s : Source) (references : References) (cell : Content) (allowance : Nat) :
    List Sited × Nat :=
  let (events, allowance) := cell.events s references allowance
  (inside .tableCell events, allowance)

/-- What each member of a list comes to, one after the other, each with what the one before left of the
allowance. -/
def chain {α : Type} (events : α → Nat → List Sited × Nat) : List α → Nat → List Sited × Nat
  | [], allowance => ([], allowance)
  | a :: rest, allowance =>
    let (first, allowance) := events a allowance
    let (others, allowance) := chain events rest allowance
    (first ++ others, allowance)

/-- The events of a table row. -/
def rowEvents (s : Source) (references : References) (tag : Tag) (row : List Content)
    (allowance : Nat) : List Sited × Nat :=
  let (events, allowance) := chain (cellEvents s references) row allowance
  (inside tag events, allowance)

mutual

/-- The events of a block, and what is left of the bytes that links may copy from definitions.  In a tight
list paragraphs are not marked. -/
def Block.events (s : Source) (references : References) (tight : Bool) :
    Block → (allowance : Nat) → List Sited × Nat
  | .quote kind blocks, allowance =>
    let (events, allowance) := blocksEvents s references false blocks allowance
    (inside (.blockQuote kind) events, allowance)
  | .list start tight items, allowance =>
    let (events, allowance) := blocksEvents s references tight items allowance
    (inside (.list start) events, allowance)
  | .item blocks, allowance =>
    let (events, allowance) := blocksEvents s references tight blocks allowance
    (inside .item events, allowance)
  | .paragraph task content, allowance =>
    let (events, allowance) := boxedEvents s references task content allowance
    (if tight then events else inside .paragraph events, allowance)
  | .task checked, allowance => ([(.taskMarker checked, ⟨0, 0⟩)], allowance)
  | .heading level task content, allowance =>
    let (events, allowance) := boxedEvents s references task content allowance
    (inside (.heading level) events, allowance)
  | .code info content, allowance =>
    (inside (.codeBlock info) (if content.isEmpty then [] else [(.text content, ⟨0, 0⟩)]), allowance)
  | .html lines, allowance => (inside .htmlBlock (lines.flatMap htmlEvents), allowance)
  | .rule, allowance => ([(.rule, ⟨0, 0⟩)], allowance)
  | .table columns head rows, allowance =>
    let (head, allowance) := rowEvents s references .tableHead head allowance
    let (body, allowance) := chain (rowEvents s references .tableRow) rows allowance
    (inside (.table columns) (head ++ body), allowance)

/-- The events of blocks one after the other. -/
def blocksEvents (s : Source) (references : References) (tight : Bool) :
    List Block → (allowance : Nat) → List Sited × Nat
  | [], allowance => ([], allowance)
  | block :: rest, allowance =>
    let (first, allowance) := block.events s references tight allowance
    let (others, allowance) := blocksEvents s references tight rest allowance
    (first ++ others, allowance)

end

/-- The events of a source. -/
def parse (source : Text) : List Sited :=
  let s := Source.ofText source
  let (blocks, references) := Builder.build s
  (blocksEvents s references false blocks (Reference.allowance source.byteLength)).1

/-- The HTML of a source with its notation converted. -/
def renderHtml (e : Engine) (o : Options) (source : Text) : Text × Engine :=
  let (events, e) := annotate source o e (parse source)
  (toHtml events, e)

end Furigana.Markdown
