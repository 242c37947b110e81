import Furigana.Markdown.Container

/-!
# Tables

A table is a line of cells, a line of hyphens with as many columns, and further lines of cells.

* `Table.delimiters?` — the columns that a line of hyphens asks for;
* `Table.columnCount` — the columns that a head line with pipes has;
* `Table.head?` — the columns of the table that a head line and the line behind it start;
* `Table.startsAt` — whether a line with a pipe in front starts a table.
-/

namespace Furigana.Markdown.Table

/-! ## The delimiter row -/

/-- A delimiter row so far: the columns of finished cells, latest first, and what its last cell has. -/
structure Delimiters where
  columns : List ColumnAlignment
  current : ColumnAlignment
  /-- Whether the last cell has no mark yet. -/
  fresh : Bool
  hyphen : Bool
  /-- Whether any cell has a hyphen. -/
  anyHyphen : Bool
  pipe : Bool

/-- The alignment of a cell behind a further colon. -/
def withColon (fresh : Bool) : ColumnAlignment → ColumnAlignment
  | .unset => if fresh then .left else .right
  | .left => if fresh then .left else .center
  | a => a

/-- Reads a character of a delimiter row.  A cell needs a hyphen to be ended by a pipe. -/
def Delimiters.next? (d : Delimiters) (c : Char) : Option Delimiters :=
  match c with
  | ' ' => some d
  | ':' => some { d with current := withColon d.fresh d.current, fresh := false }
  | '-' => some { d with fresh := false, hyphen := true, anyHyphen := true }
  | '|' =>
    if d.hyphen then
      some { d with
        columns := d.current :: d.columns, current := .unset, fresh := true, hyphen := false,
        pipe := true }
    else none
  | _ => none

/-- The columns of a delimiter row that has been read. -/
def Delimiters.finish? (d : Delimiters) : Option (List ColumnAlignment) :=
  if d.pipe && d.anyHyphen then
    some (if d.fresh then d.columns else d.current :: d.columns).reverse
  else none

/-- The columns of the delimiter row at a place, and the place behind its line.  Less than four columns
of white space and a pipe may stand in front of it. -/
def delimiters? (s : Source) (i : Nat) : Option (List ColumnAlignment × Nat) :=
  let c := Cursor.ofPlace i
  if c.width s 4 = 4 then none
  else
    let j := (c.skip s 4).place
    let piped := s.isAt '|' j
    let j := if piped then j + 1 else j
    let k := s.skip (fun c => !isLineEnd c) j
    if s.size ≤ i then none
    else
      ((s.slice j k).foldlM Delimiters.next? ⟨[], .unset, true, false, false, piped⟩).bind fun d =>
        d.finish?.map (·, (s.lineEnd? k).getD k)

/-! ## The head -/

/-- The number of columns of the head line at `start` with a number of pipes, the last one at `last`:
pipes at either end of the line separate nothing. -/
def columnCount (s : Source) (pipes start last : Nat) : Nat :=
  let inner := if s.isAt '|' (s.skip isInlineSpace start) then pipes - 1 else pipes
  if s.isBlank (last + 1) then inner else inner + 1

/-- The columns of the table with the head line at `start`, and the place behind the delimiter row, which
starts at `next` and stands in the same containers. -/
def head? (s : Source) (containers : List Container) (pipes start last next : Nat) :
    Option (List ColumnAlignment × Nat) :=
  let (inside, c) := Container.enterLine s containers next
  if inside then
    (delimiters? s c.place).filter fun (columns, _) =>
      columns.length == columnCount s pipes start last
  else none

/-- The pipes of a line that no backslash stands in front of: how many, where the last one is, and where
the line ends. -/
def pipes (s : Source) (count last i : Nat) : Nat × Nat × Nat :=
  if i < s.size then
    if s.has isLineEnd i then (count, last, i)
    else if s.isAt '|' i && s.before? i != some '\\' then pipes s (count + 1) i (i + 1)
    else pipes s count last (i + 1)
  else (count, last, i)
termination_by s.size - i
decreasing_by all_goals omega

/-- Whether the line at a place has a pipe in front and starts a table. -/
def startsAt (s : Source) (containers : List Container) (i : Nat) : Bool :=
  s.isAt '|' i &&
    let (count, last, j) := pipes s 1 i (i + 1)
    let next := (s.lineEnd? j).getD j
    next < s.size && (head? s containers count i last next).isSome

end Furigana.Markdown.Table
