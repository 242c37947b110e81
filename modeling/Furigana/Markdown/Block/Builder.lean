import Furigana.Markdown.Block.Leaf

/-!
# Building the blocks of a document

A `Builder` holds the containers that are open, with the blocks in each so far, and the definitions met.
Each step reads a block: it closes the containers that the line does not go on with, opens those that
it starts, and reads the leaf behind them.

* `Builder.step` — reads a block;
* `Builder.build` — the blocks and the definitions of a source.
-/

namespace Furigana.Markdown

/-- A container with the blocks in it so far, latest first. -/
structure OpenContainer where
  container : Container
  blocks : List Block

/-- The finished container. -/
def OpenContainer.toBlock (o : OpenContainer) : Block :=
  match o.container with
  | .quote kind => .quote kind o.blocks.reverse
  | .list _ start tight => .list start tight o.blocks.reverse
  | .item _ => .item o.blocks.reverse

/-- A list made loose. -/
def OpenContainer.loosen (o : OpenContainer) : OpenContainer :=
  match o.container with
  | .list symbol start _ => { o with container := .list symbol start false }
  | _ => o

/-- A document in the making. -/
structure Builder where
  /-- The blocks outside every open container, latest first. -/
  blocks : List Block
  /-- The open containers, innermost first. -/
  opened : List OpenContainer
  references : References
  /-- Whether a blank line came last, outside of quotes. -/
  afterBlank : Bool
  /-- Whether an item has started with an empty line, and nothing has come behind it. -/
  itemStarted : Bool

namespace Builder

/-- The builder before the first line. -/
def empty : Builder := ⟨[], [], [], false, false⟩

/-- The open containers, outermost first. -/
def containers (b : Builder) : List Container := (b.opened.map (·.container)).reverse

/-! ## Closing and opening -/

/-- Adds a finished block to the innermost container. -/
def add (b : Builder) (block : Block) : Builder :=
  match b.opened with
  | [] => { b with blocks := block :: b.blocks }
  | o :: rest => { b with opened := { o with blocks := block :: o.blocks } :: rest }

/-- Finishes the innermost container. -/
def pop (b : Builder) : Builder :=
  match b.opened with
  | [] => b
  | o :: rest =>
    let b := { b with opened := rest }.add o.toBlock
    match o.container with
    | .list _ _ true => { b with itemStarted := false }
    | _ => b

/-- Finishes containers until at most `n` are open. -/
def closeTo (n : Nat) (b : Builder) : Builder := (b.opened.length - n).repeat pop b

/-- Opens a container. -/
def push (b : Builder) (c : Container) : Builder := { b with opened := ⟨c, []⟩ :: b.opened }

/-! ## Lists -/

/-- Finishes the innermost item if it started with an empty line and a blank one followed. -/
def finishEmptyItem (b : Builder) : Builder :=
  let b := match b.opened with
    | ⟨.item _, _⟩ :: _ => if b.itemStarted && b.afterBlank then b.pop else b
    | _ => b
  { b with itemStarted := false }

/-- Makes way for a block that is no item of an open list.  A blank line before it makes the list around
it loose. -/
def finishList (b : Builder) : Builder :=
  let b := b.finishEmptyItem
  let b := match b.opened with
    | ⟨.list _ _ _, _⟩ :: _ => b.pop
    | _ => b
  let opened := match b.opened with
    | item :: list :: rest => if b.afterBlank then item :: list.loosen :: rest else b.opened
    | opened => opened
  { b with opened := opened, afterBlank := false }

/-- Makes way for an item: goes on with a list that has the same mark, or opens one. -/
def continueList (b : Builder) (m : Marker) : Builder :=
  let b := b.finishEmptyItem
  match b.opened with
  | ⟨.list symbol start tight, blocks⟩ :: rest =>
    if symbol = m.symbol then
      let list : OpenContainer := ⟨.list symbol start (tight && !b.afterBlank), blocks⟩
      { b with opened := list :: rest, afterBlank := false }
    else b.finishList.push (.list m.symbol m.start true)
  | _ => b.finishList.push (.list m.symbol m.start true)

/-- Notes a blank line.  Behind the empty line that an item started with, nothing further belongs to the
item by its indentation. -/
def blankLine (b : Builder) : Builder :=
  match b.opened with
  | ⟨.quote _, _⟩ :: _ => b
  | ⟨.item indent, blocks⟩ :: rest =>
    let item : OpenContainer := ⟨.item (if b.itemStarted then 0 else indent), blocks⟩
    { b with opened := item :: rest, afterBlank := true }
  | _ => { b with afterBlank := true }

/-! ## Opening containers -/

/-- What a line has come to when some of its containers are open. -/
inductive Opening where
  /-- Further containers or a leaf may follow. -/
  | more (b : Builder) (c : Cursor)
  /-- A leaf follows. -/
  | leaf (b : Builder) (c : Cursor)
  /-- The line has been read, up to the place of the next one. -/
  | line (b : Builder) (next : Nat)

/-- The check box at the start of an item, and the place behind it.  White space follows it. -/
def checkBox? (s : Source) (c : Cursor) : Option (Bool × Nat) :=
  let i := (c.skip s 3).place
  if s.isAt '[' i && s.isAt ']' (i + 2) && s.has isSpace (i + 3) then
    if s.has isInlineSpace (i + 1) then some (false, i + 3)
    else if s.isAt 'x' (i + 1) || s.isAt 'X' (i + 1) then some (true, i + 3)
    else none
  else none

/-- Opens an item with the marker at a cursor, indented by a number of columns. -/
def openItem (s : Source) (b : Builder) (indent : Nat) (c : Cursor) (m : Marker) : Opening :=
  let b := b.continueList m
  let indent := indent + (m.stop - c.place) + 1
  match s.blankEnd? m.stop with
  | some next => .line { b.push (.item indent) with itemStarted := true } next
  | none =>
    let d := { c with place := m.stop }.skip s 1
    let width := d.width s 4
    let (indent, d) := if width < 4 then (indent + width, d.skip s 4) else (indent, d)
    let b := b.push (.item indent)
    match checkBox? s d with
    | none => .more b d
    | some (checked, i) =>
      match s.blankEnd? i with
      | some next => .line { b.add (.task checked) with itemStarted := true } next
      | none =>
        let (block, next) := Leaf.paragraph s b.containers (some checked) (s.skip isSpaceOrTab i)
        .line (b.add block) next

/-- The kind of an alert whose head is at a place, and the place of the next line. -/
def alertHead? (s : Source) (i : Nat) : Option (AlertKind × Nat) :=
  let kinds : List (String × AlertKind) :=
    [("[!note]", .note), ("[!tip]", .tip), ("[!important]", .important), ("[!warning]", .warning),
     ("[!caution]", .caution)]
  kinds.findSome? fun (head, kind) =>
    let j := i + head.length
    if (s.slice i j).map Char.toLower = head.toList then (s.blankEnd? j).map (kind, ·) else none

/-- Opens a quote whose mark ends in front of a cursor.  The head of an alert leads a paragraph, which the
next line may go on with. -/
def openQuote (s : Source) (b : Builder) (c : Cursor) : Opening :=
  let b := b.finishList
  match alertHead? s c.place with
  | none => .more (b.push (.quote none)) c
  | some (kind, next) =>
    let b := b.push (.quote (some kind))
    match paragraphLine? s b.containers next with
    | none => .line b next
    | some d => .leaf b (d.skipAll s)

/-- Opens the container that starts at a cursor, if one does. -/
def openContainer (s : Source) (b : Builder) (c : Cursor) : Opening :=
  let indent := c.width s 4
  let d := c.skip s 4
  if indent = 4 then .leaf b c
  else
    match Marker.ofPlace? s d.place with
    | some m => openItem s b indent d m
    | none =>
      if s.isAt '>' d.place then openQuote s b ((d.advance 1).skip s 1) else .leaf b c

/-- Opens the containers that a line starts, at most `fuel` of them, and reads the line on with `leaf`. -/
def openContainers (s : Source) (leaf : Builder → Cursor → Builder × Nat) :
    (fuel : Nat) → Builder → Cursor → Builder × Nat
  | 0, b, c => leaf b c
  | fuel + 1, b, c =>
    match openContainer s b c with
    | .more b c => openContainers s leaf fuel b c
    | .leaf b c => leaf b c
    | .line b next => (b, next)

/-! ## Leaves -/

/-- Reads the definitions at a place, at most `fuel` of them, and then what follows as a paragraph, unless
the line behind the last one starts another block. -/
def definitions (s : Source) : (fuel : Nat) → Builder → (i : Nat) → Builder × Nat
  | 0, b, i => (b, i)
  | fuel + 1, b, i =>
    match Reference.definition? s b.containers i with
    | none =>
      let b := b.finishList
      let (block, next) := Leaf.paragraph s b.containers none i
      (b.add block, next)
    | some ((label, reference), stop) =>
      let b := { b with references := Reference.define b.references label reference }
      match s.blankEnd? stop with
      | none => (b.finishList, stop)
      | some next =>
        match paragraphLine? s b.containers next with
        | none => (b.finishList, next)
        | some c => definitions s fuel b (c.skipAll s).place

/-- The text that ends a block of raw HTML at a place, if a text and not a blank line does, where the line
starts such a block. -/
def htmlStart? (s : Source) (i : Nat) : Option (Option Text) :=
  if s.isAt '<' i then
    match HtmlTag.rawBlockEnd? s (i + 1) with
    | some stop => some (some stop)
    | none =>
      if HtmlTag.startsNamedBlock s (i + 1) || HtmlTag.isLoneTag s (i + 1) then some none else none
  else none

/-- Reads the leaf at a cursor. -/
def leaf (s : Source) (b : Builder) (c : Cursor) : Builder × Nat :=
  match s.blankEnd? c.place with
  | some next => (b.blankLine, next)
  | none =>
    let indent := c.width s 4
    let d := c.skip s 4
    let i := d.place
    let closed := b.finishList
    let adding (block : Block × Nat) : Builder × Nat := (closed.add block.1, block.2)
    if indent = 4 then
      let (block, blank, next) := Leaf.indented s closed.containers d.spaces i
      ({ closed.add block with afterBlank := blank }, next)
    else
      match htmlStart? s i with
      | some stop => adding (Leaf.html s closed.containers stop indent i)
      | none =>
        match thematicBreakEnd? s i, headingLevel? s i, Fence.opening? s i with
        | some next, _, _ => adding (.rule, next)
        | none, some level, _ => adding (Leaf.heading s closed.containers level i)
        | none, none, some fence => adding (Leaf.fenced s closed.containers fence indent i)
        | none, none, none => definitions s (s.size - i + 1) b i

/-! ## Steps -/

/-- Reads the block at the start of a line, and gives the place of the line behind it. -/
def step (s : Source) (b : Builder) (i : Nat) : Builder × Nat :=
  let (n, c) := Container.follow s b.containers (.ofPlace i)
  openContainers s (leaf s) (s.size - i + 1) (b.closeTo n) c

/-- Reads blocks from the start of a line on. -/
def readFrom (s : Source) (b : Builder) (i : Nat) : Builder :=
  if i < s.size then
    let (b, next) := b.step s i
    if i < next then readFrom s b next else b
  else b
termination_by s.size - i
decreasing_by omega

/-- The blocks and the definitions of a source. -/
def build (s : Source) : List Block × References :=
  let b := (readFrom s .empty 0).closeTo 0
  (b.blocks.reverse, b.references)

end Builder

end Furigana.Markdown
