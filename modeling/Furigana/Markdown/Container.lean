import Furigana.Markdown.Source

/-!
# Containers

Quotes, lists and items hold other blocks, and each line inside of them starts with what they ask for:
quote marks and the indentation of items.

* `Container.follow` — how many of the open containers a line goes on with;
* `Container.enterLine` — whether it goes on with all of them, and where its own content starts;
* `Container.withoutMargins` — a stretch of several lines without what containers ask for.

Containers are listed from the outermost one on.
-/

namespace Furigana.Markdown

/-- A container that is open. -/
inductive Container where
  | quote (kind : Option AlertKind)
  /-- A list, with the mark that its items share and the number of the first one. -/
  | list (symbol : Char) (start : Option Nat) (tight : Bool)
  /-- An item, with the columns that lines in it are indented by. -/
  | item (indent : Nat)
deriving DecidableEq, Repr

namespace Container

/-- Reads what a container asks of a line.  An item lets a blank line be. -/
def enter? (s : Source) (c : Cursor) : Container → Option Cursor
  | .quote _ =>
    let d := c.skip s 3
    if s.isAt '>' d.place then some ((d.advance 1).skip s 1) else none
  | .item indent =>
    match c.read s indent with
    | (0, d) => some d
    | (_, d) => if d.isAtEnd s then some d else none
  | .list _ _ _ => some c

/-- How many containers a line goes on with, and where that leads. -/
def follow (s : Source) : List Container → Cursor → Nat × Cursor
  | [], c => (0, c)
  | container :: rest, c =>
    match container.enter? s c with
    | some d => let (n, e) := follow s rest d; (n + 1, e)
    | none => (0, c)

/-- Whether the line at a place goes on with all containers, and where that leads. -/
def enterLine (s : Source) (containers : List Container) (i : Nat) : Bool × Cursor :=
  let (n, c) := follow s containers (.ofPlace i)
  (n == containers.length, c)

/-- The place behind what containers ask of the line at a place. -/
def skipMargin (s : Source) (containers : List Container) (i : Nat) : Nat :=
  (enterLine s containers i).2.place

/-- The characters from `i` up to `j`, without what containers ask of the lines in between.  `fuel`
bounds the number of line endings. -/
def withoutMargins (s : Source) (containers : List Container) : (fuel : Nat) → (i j : Nat) → Text
  | 0, i, j => s.slice i j
  | fuel + 1, i, j =>
    let k := s.skip (fun c => !isLineEnd c) i
    match s.lineEnd? k with
    | some next =>
      if next < j then
        s.slice i next ++ withoutMargins s containers fuel (skipMargin s containers next) j
      else s.slice i j
    | none => s.slice i j

end Container

end Furigana.Markdown
