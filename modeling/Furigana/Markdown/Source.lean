import Furigana.Markdown.Event

/-!
# Sources

A source is read by place, the number of characters in front of one, so that everything read from it
keeps its position and what stands around it can still be looked at.

* `Source` — the characters up to some place, with the byte at which each starts;
* `Source.skip`, `Source.lineEnd?`, `Source.blankEnd?` — how far classes of characters and lines reach;
* `Cursor` — a place in a line whose indentation is being read, with columns counted through tabs.
-/

namespace Furigana.Markdown

/-! ## White space -/

/-- Whether a character is a space or a tab. -/
def isSpaceOrTab (c : Char) : Bool := c == ' ' || c == '\t'

/-- Whether a character is white space that does not end a line. -/
def isInlineSpace (c : Char) : Bool := isSpaceOrTab c || c == '\x0b' || c == '\x0c'

/-- Whether a character ends a line. -/
def isLineEnd (c : Char) : Bool := c == '\n' || c == '\r'

/-- Whether a character is white space. -/
def isSpace (c : Char) : Bool := isInlineSpace c || isLineEnd c

/-- A source, of which the first `size` characters are read. -/
structure Source where
  chars : Array Char
  /-- The byte at which each character starts, and the one behind the last character. -/
  offsets : Array Nat
  size : Nat

namespace Source

/-- A text as a source. -/
def ofText (t : Text) : Source :=
  let chars := t.toArray
  let (offsets, _) := chars.foldl
    (fun (offsets, byte) c => (offsets.push (byte + c.utf8Size), byte + c.utf8Size)) (#[0], 0)
  ⟨chars, offsets, chars.size⟩

/-- The source up to a place. -/
def upTo (s : Source) (stop : Nat) : Source := { s with size := min s.size stop }

/-- The byte at a place. -/
def offset (s : Source) (i : Nat) : Nat := s.offsets.getD i 0

/-- The character at a place. -/
def char? (s : Source) (i : Nat) : Option Char := if i < s.size then s.chars[i]? else none

/-- Whether a character stands at a place. -/
def isAt (s : Source) (c : Char) (i : Nat) : Bool := s.char? i == some c

/-- Whether a character of a class stands at a place. -/
def has (s : Source) (p : Char → Bool) (i : Nat) : Bool := (s.char? i).any p

/-- The character in front of a place. -/
def before? (s : Source) (i : Nat) : Option Char := if i = 0 then none else s.char? (i - 1)

/-- The characters from `i` up to `j`. -/
def slice (s : Source) (i j : Nat) : Text := (s.chars.extract i (min j s.size)).toList

/-- The text from `i` up to `j` as an event. -/
def textEvent (s : Source) (i j : Nat) : Sited := (.text (s.slice i j), ⟨s.offset i, s.offset j⟩)

/-- The first place from `i` on whose character is not of a class. -/
def skip (s : Source) (p : Char → Bool) (i : Nat) : Nat :=
  if i < s.size ∧ s.has p i then s.skip p (i + 1) else i
termination_by s.size - i
decreasing_by omega

/-- The place where a run of a class starts that ends at `i`, but none before `least`. -/
def skipBack (s : Source) (p : Char → Bool) (least : Nat) : Nat → Nat
  | 0 => 0
  | i + 1 => if least ≤ i && s.has p i then s.skipBack p least i else i + 1

/-- Whether a text stands at a place. -/
def startsWith (s : Source) : Text → Nat → Bool
  | [], _ => true
  | c :: t, i => s.isAt c i && s.startsWith t (i + 1)

/-- The first place from `i` on at which a text stands. -/
def find? (s : Source) (t : Text) (i : Nat) : Option Nat :=
  if s.startsWith t i then some i
  else if i < s.size then s.find? t (i + 1)
  else none
termination_by s.size - i
decreasing_by omega

/-! ## Lines -/

/-- The place behind the line ending at `i`: a line feed, a carriage return or both in this order.  The
end of the source ends its last line. -/
def lineEnd? (s : Source) (i : Nat) : Option Nat :=
  match s.char? i with
  | none => some i
  | some '\n' => some (i + 1)
  | some '\r' => some (if s.isAt '\n' (i + 1) then i + 2 else i + 1)
  | _ => none

/-- The place behind the line ending, if nothing but white space is left in front of it. -/
def blankEnd? (s : Source) (i : Nat) : Option Nat := s.lineEnd? (s.skip isInlineSpace i)

/-- Whether nothing but white space is left of the line. -/
def isBlank (s : Source) (i : Nat) : Bool := (s.blankEnd? i).isSome

/-- The place behind the next line feed. -/
def behindLineFeed (s : Source) (i : Nat) : Nat :=
  let j := s.skip (· != '\n') i
  if s.isAt '\n' j then j + 1 else j

/-- A whole line up to the place behind its line feed.  A carriage return in front of the last
character is dropped. -/
def rawLine (s : Source) (i j : Nat) : Text :=
  if i + 2 ≤ j && s.isAt '\r' (j - 2) && (s.char? (j - 1)).all (·.utf8Size == 1) then
    s.slice i (j - 2) ++ s.slice (j - 1) j
  else s.slice i j

end Source

/-! ## Columns -/

/-- A place in a line.  A tab reaches to the next multiple of four columns, counted from `origin`; when
only part of it has been read, `spaces` columns of it are left in front of the place. -/
structure Cursor where
  place : Nat
  origin : Nat
  spaces : Nat

namespace Cursor

/-- The start of the line at a place. -/
def ofPlace (i : Nat) : Cursor := ⟨i, i, 0⟩

/-- Reads up to a number of columns of white space: how many could not be read, and where that leads. -/
def read (s : Source) : Nat → Cursor → Nat × Cursor
  | 0, c => (0, c)
  | n + 1, ⟨place, origin, spaces + 1⟩ => read s n ⟨place, origin, spaces⟩
  | n + 1, ⟨place, origin, 0⟩ =>
    match s.char? place with
    | some ' ' => read s n ⟨place + 1, origin, 0⟩
    | some '\t' => read s n ⟨place + 1, place + 1, 3 - (place - origin) % 4⟩
    | _ => (n + 1, ⟨place, origin, 0⟩)

/-- Reads up to `n` columns of white space. -/
def skip (s : Source) (n : Nat) (c : Cursor) : Cursor := (c.read s n).2

/-- Reads `n` columns of white space if there are as many. -/
def skip? (s : Source) (n : Nat) (c : Cursor) : Option Cursor :=
  match c.read s n with
  | (0, d) => some d
  | _ => none

/-- The number of columns of white space that come next, up to `n`. -/
def width (s : Source) (n : Nat) (c : Cursor) : Nat := n - (c.read s n).1

/-- Reads `n` characters that are not white space. -/
def advance (n : Nat) (c : Cursor) : Cursor := { c with place := c.place + n }

/-- Reads all spaces and tabs. -/
def skipAll (s : Source) (c : Cursor) : Cursor :=
  { c with place := s.skip isSpaceOrTab c.place, spaces := 0 }

/-- Whether the line ends here. -/
def isAtEnd (s : Source) (c : Cursor) : Bool := (s.char? c.place).all isLineEnd

end Cursor

end Furigana.Markdown
