import Furigana.Markdown.HtmlTag
import Furigana.Markdown.Table

/-!
# Line starts

What stands at a place in a line, behind its indentation, says about the block that the line belongs to:
thematic breaks, headings, fences and list markers.

* `interrupts` — whether a line ends the paragraph before it;
* `textLine?` — where the next line of a paragraph goes on, if it does.
-/

namespace Furigana.Markdown

/-! ## Breaks and headings -/

/-- The place behind a thematic break: three or more equal marks and nothing else but spaces. -/
def thematicBreakEnd? (s : Source) (i : Nat) : Option Nat :=
  match s.char? i with
  | none => none
  | some c =>
    let j := s.skip (fun d => d == c || isSpaceOrTab d) i
    if ['*', '-', '_'].contains c && 3 ≤ (s.slice i j).count c then s.lineEnd? j else none

/-- The level of a heading that starts with number signs. -/
def headingLevel? (s : Source) (i : Nat) : Option Nat :=
  let j := s.skip (· == '#') i
  if i < j && j - i ≤ 6 && (s.char? j).all isSpace then some (j - i) else none

/-- The level of the heading that the line at a place underlines, and the place behind the line. -/
def underline? (s : Source) (i : Nat) : Option (Nat × Nat) :=
  match s.char? i with
  | some '=' => (s.blankEnd? (s.skip (· == '=') i)).map (1, ·)
  | some '-' => (s.blankEnd? (s.skip (· == '-') i)).map (2, ·)
  | _ => none

/-! ## Fences -/

/-- The fence of a code block: its mark, and how many of them. -/
structure Fence where
  mark : Char
  length : Nat
deriving DecidableEq, Repr

/-- An opening fence.  Behind backticks there is no further backtick. -/
def Fence.opening? (s : Source) (i : Nat) : Option Fence :=
  match s.char? i with
  | none => none
  | some c =>
    let j := s.skip (· == c) i
    if (c == '\x60' || c == '~') && i + 3 ≤ j
        && !(c == '\x60' && s.isAt '\x60' (s.skip (fun d => d != '\x60' && d != '\n') j)) then
      some ⟨c, j - i⟩
    else none

/-- The place behind a closing fence: at least as many marks and nothing else but spaces on the line.
The end of the source closes a fence, too. -/
def Fence.closing? (f : Fence) (s : Source) (i : Nat) : Option Nat :=
  if s.size ≤ i then some i
  else
    let j := s.skip (· == f.mark) i
    let k := s.skip (· == ' ') j
    if i + f.length ≤ j && (s.lineEnd? k).isSome then some k else none

/-! ## List markers -/

/-- The marker of a list item: what tells its list from others, the number it starts with, and the place
behind it. -/
structure Marker where
  symbol : Char
  start : Option Nat
  stop : Nat
deriving DecidableEq, Repr

/-- A list marker.  White space or the end of the line follows it. -/
def Marker.ofPlace? (s : Source) (i : Nat) : Option Marker :=
  let followed (j : Nat) : Bool := (s.char? j).all fun c => isSpaceOrTab c || isLineEnd c
  match s.char? i with
  | none => none
  | some c =>
    if ['-', '+', '*'].contains c then
      if followed (i + 1) && (thematicBreakEnd? s i).isNone then some ⟨c, none, i + 1⟩ else none
    else
      let j := s.skip Text.isAsciiDigit i
      match s.char? j with
      | some d =>
        if i < j && j ≤ i + 9 && (d == '.' || d == ')') && followed (j + 1) then
          some ⟨d, some (Text.number 10 (s.slice i j)), j + 1⟩
        else none
      | none => none

/-- Whether a marker ends a paragraph that would otherwise go on: its item is not empty, and a number is
one. -/
def Marker.interrupts (m : Marker) (s : Source) : Bool :=
  (m.start == none || m.start == some 1) && !s.isBlank m.stop

/-! ## Interruptions -/

/-- Whether what stands at a place starts a block other than a table that ends the one before.  Any list
item does so if `anyItem` holds. -/
def startsBlock (s : Source) (anyItem : Bool) (i : Nat) : Bool :=
  (s.lineEnd? i).isSome || (thematicBreakEnd? s i).isSome || (headingLevel? s i).isSome
    || (Fence.opening? s i).isSome || s.isAt '>' i
    || (Marker.ofPlace? s i).any (fun m => anyItem || m.interrupts s)
    || (s.isAt '<' i
      && ((HtmlTag.rawBlockEnd? s (i + 1)).isSome || HtmlTag.startsNamedBlock s (i + 1)))

/-- Whether what stands at a place ends a paragraph.  `inside` tells that the line goes on with all the
containers of the paragraph. -/
def interrupts (s : Source) (containers : List Container) (inside : Bool) (i : Nat) : Bool :=
  startsBlock s (!inside) i || Table.startsAt s containers i

/-- Where the line at a place goes on with a paragraph, and whether it stands in all the containers.
Indented by four columns it can be nothing else. -/
def paragraphLine? (s : Source) (containers : List Container) (i : Nat) : Option Cursor :=
  let (inside, c) := Container.enterLine s containers i
  match c.skip? s 4 with
  | some d => some d
  | none =>
    let d := c.skip s 4
    if interrupts s containers inside d.place then none else some d

/-- Where the line at a place goes on with a definition, which an underline cannot be part of. -/
def definitionLine? (s : Source) (containers : List Container) (i : Nat) : Option Nat :=
  let c := (Container.enterLine s containers i).2
  if (c.skip? s 4).isNone && (underline? s (c.skip s 4).place).isSome then none
  else (paragraphLine? s containers i).map (·.place)

end Furigana.Markdown
