import Furigana.Markdown.Block

/-!
# Leaves

Reads the blocks that hold no others.  A reader takes the place where its block starts, behind the
indentation, and gives the block with the place of the line behind it.

* `Leaf.paragraph` — a paragraph, or the heading or table that its lines turn out to be;
* `Leaf.heading`, `Leaf.fenced`, `Leaf.indented`, `Leaf.html` — the other leaves.
-/

namespace Furigana.Markdown.Leaf

/-! ## Paragraphs -/

/-- What the lines of a paragraph turn out to be. -/
inductive Outcome where
  | paragraph
  /-- A heading, because the last line underlines the others. -/
  | heading (level : Nat)
  /-- A table, because the first line is its head. -/
  | table (columns : List ColumnAlignment)

/-- The tokens of a line break.  At the end of a paragraph a backslash is text, and white space is not. -/
def breakText : LineClose → List Token
  | .lineBreak ⟨.hardBreak true, start, _⟩ => [⟨.text, start, start + 1⟩]
  | _ => []

/-- The line break that joins a line with the next one. -/
def breakToken : LineClose → List Token
  | .lineBreak token => [token]
  | _ => []

/-- Reads the lines of a paragraph from a place on: the tokens, latest first, what the lines turn out to
be, and the place behind the block's own lines. -/
def paragraphLines (s : Source) (containers : List Container) (use : PipeUse) (read : List Token)
    (i : Nat) : List Token × Outcome × Nat :=
  let line := TokenLine.read s containers use i
  let tokens := line.tokens ++ read
  match line.close with
  | .tableHead columns => ([], .table columns, line.next)
  | close =>
    let closed := breakText close ++ tokens
    let (inside, c) := Container.enterLine s containers line.next
    match if (c.skip? s 4).isNone && inside then underline? s (c.skip s 4).place else none with
    | some (level, stop) => (closed, .heading level, stop)
    | none =>
      match paragraphLine? s containers line.next with
      | none => (closed, .paragraph, line.next)
      | some d =>
        let e := d.skipAll s
        if e.isAtEnd s then (closed, .paragraph, line.next)
        else if i < e.place ∧ i < s.size then
          paragraphLines s containers .plain (breakToken close ++ tokens) e.place
        else (closed, .paragraph, line.next)
termination_by s.size - i
decreasing_by all_goals (simp +zetaDelta only [] at *; omega)

/-! ## Tables -/

/-- Reads the cells of a row from a place on, latest first, with the place of the next line. -/
def cells (s : Source) (containers : List Container) (read : List Content) (i : Nat) :
    List Content × Nat :=
  let start := s.skip isInlineSpace (if s.isAt '|' i then i + 1 else i)
  match s.lineEnd? start with
  | some next => (read, next)
  | none =>
    let line := TokenLine.read s containers .ends start
    let cell : Content := ⟨line.tokens.reverse, containers, line.next, true⟩
    if i < line.next ∧ i < s.size then cells s containers (cell :: read) line.next
    else (cell :: read, line.next)
termination_by s.size - i
decreasing_by all_goals (simp +zetaDelta only [] at *; omega)

/-- A row in a table of `n` columns: missing cells are empty, surplus ones dropped. -/
def fit (n : Nat) (row : List Content) : List Content :=
  let empty : Content := ⟨[], [], 0, true⟩
  (row ++ List.replicate (n - row.length) empty).take n

/-- Reads the rows of a table of `n` columns from a place on, latest first, with the place of the line
behind them.  A row has a cell, and all containers go on with it. -/
def rows (s : Source) (containers : List Container) (n : Nat) (read : List (List Content)) (i : Nat) :
    List (List Content) × Nat :=
  let (inside, c) := Container.enterLine s containers i
  let start := s.skip isSpaceOrTab c.place
  if !inside || startsBlock s true start then (read, i)
  else
    let (row, next) := cells s containers [] start
    if row.isEmpty then (read, i)
    else if i < next ∧ i < s.size then
      rows s containers n (fit n row.reverse :: read) next
    else (fit n row.reverse :: read, next)
termination_by s.size - i
decreasing_by all_goals (simp +zetaDelta only [] at *; omega)

/-- Reads a paragraph, which a check box may be in front of. -/
def paragraph (s : Source) (containers : List Container) (task : Option Bool) (i : Nat) :
    Block × Nat :=
  let (tokens, outcome, next) := paragraphLines s containers .counted [] i
  let content : Content := ⟨tokens.reverse, containers, next, false⟩
  match outcome with
  | .paragraph => (.paragraph task content, next)
  | .heading level => (.heading level task content, next)
  | .table columns =>
    let n := columns.length
    let head := (cells s containers [] i).1.reverse
    let (body, next) := rows s containers n [] next
    (.table columns (fit n head) body.reverse, next)

/-! ## Headings -/

/-- The end of the content of a heading from `i` up to `j`: in front of closing number signs, if nothing
or a space stands before them. -/
def headingEnd (s : Source) (i j : Nat) : Nat :=
  let stop := s.skipBack (fun c => c == ' ' || isLineEnd c) i j
  let closer := s.skipBack (· == '#') i stop
  if closer ≤ i then i
  else
    let spaces := s.skipBack (· == ' ') i closer
    if spaces < closer then spaces else stop

/-- Reads a heading that starts with number signs.  The last token of its content reaches up to where the
content ends. -/
def heading (s : Source) (containers : List Container) (level i : Nat) : Block × Nat :=
  let start := s.skip isInlineSpace (i + level)
  let line := TokenLine.read s containers .plain start
  let tokens : List Token := match breakText line.close ++ line.tokens with
    | t :: rest => { t with stop := headingEnd s start line.next } :: rest
    | [] => []
  (.heading level none ⟨tokens.reverse, containers, line.next, false⟩, line.next)

/-! ## Code -/

/-- Reads the lines of fenced code from a place on, latest first, with the place of the line behind the
block.  Lines lose the indentation of the fence. -/
def fencedLines (s : Source) (containers : List Container) (fence : Fence) (indent : Nat)
    (read : List Text) (i : Nat) : List Text × Nat :=
  let (inside, c) := Container.enterLine s containers i
  if !inside then (read, i)
  else
    let c := c.skip s indent
    let closing := if (c.skip? s (4 - indent)).isSome then none
      else fence.closing? s (c.skip s (4 - indent)).place
    match closing with
    | some stop => (read, (s.blankEnd? stop).getD stop)
    | none =>
      let next := s.behindLineFeed c.place
      let line := List.replicate c.spaces ' ' ++ s.rawLine c.place next
      if i < next ∧ i < s.size then fencedLines s containers fence indent (line :: read) next
      else (line :: read, next)
termination_by s.size - i
decreasing_by all_goals (simp +zetaDelta only [] at *; omega)

/-- Reads a fenced code block, whose fence is indented by a number of columns. -/
def fenced (s : Source) (containers : List Container) (fence : Fence) (indent i : Nat) :
    Block × Nat :=
  let start := s.skip isInlineSpace (i + fence.length)
  let next := s.behindLineFeed start
  let info := s.slice start (s.skipBack isSpace start next)
  let (lines, next) := fencedLines s containers fence indent [] next
  (.code (some (Entity.resolve false info)) lines.reverse.flatten, next)

/-- Reads the lines of indented code from a place on, with the columns of a half-read tab in front: the
lines, latest first, whether the last one is blank, and the place of the line behind them. -/
def indentedLines (s : Source) (containers : List Container) (read : List (Bool × Text))
    (spaces i : Nat) : List (Bool × Text) × Nat :=
  let next := s.behindLineFeed i
  let line := List.replicate spaces ' ' ++ s.rawLine i next
  let read := (s.isBlank i, line) :: read
  let (inside, c) := Container.enterLine s containers next
  let d := c.skip s 4
  if inside && ((c.skip? s 4).isSome || d.isAtEnd s) && d.place < s.size then
    if i < d.place ∧ i < s.size then indentedLines s containers read d.spaces d.place
    else (read, next)
  else (read, next)
termination_by s.size - i
decreasing_by all_goals (simp +zetaDelta only [] at *; omega)

/-- Reads an indented code block: the block, whether blank lines follow, and the place behind those. -/
def indented (s : Source) (containers : List Container) (spaces i : Nat) : Block × Bool × Nat :=
  let (lines, next) := indentedLines s containers [] spaces i
  let code := (lines.dropWhile (·.1)).reverse
  (.code none (code.flatMap (·.2)), (lines.head?.map (·.1)).getD false, next)

/-! ## Raw HTML -/

/-- Reads the lines of a block of raw HTML from a place on, latest first, with the place of the line behind
it.  The block ends with a line that holds `stop`, or else in front of a blank line. -/
def htmlLines (s : Source) (containers : List Container) (stop : Option Text)
    (read : List (Nat × Text)) (spaces i : Nat) : List (Nat × Text) × Nat :=
  let next := s.behindLineFeed i
  let read := (spaces, s.rawLine i next) :: read
  let (inside, c) := Container.enterLine s containers next
  let ends := match stop with
    | some t => (Text.cutAt? t (s.slice i next)).isSome
    | none => s.isBlank c.place
  if inside && !ends && c.place < s.size then
    if i < c.place ∧ i < s.size then htmlLines s containers stop read c.spaces c.place
    else (read, next)
  else (read, next)
termination_by s.size - i
decreasing_by all_goals (simp +zetaDelta only [] at *; omega)

/-- Reads a block of raw HTML, indented by a number of columns. -/
def html (s : Source) (containers : List Container) (stop : Option Text) (indent i : Nat) :
    Block × Nat :=
  let (lines, next) := htmlLines s containers stop [] indent i
  (.html lines.reverse, next)

end Furigana.Markdown.Leaf
