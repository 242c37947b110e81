import Furigana.Markdown.Entity
import Furigana.Markdown.Inline.Emphasis
import Furigana.Markdown.Table

/-!
# Tokens

A line of a paragraph, a heading or a cell is first cut into stretches of plain text and marks that may
turn out to be more: brackets, backticks, runs of emphasis marks.  What the marks mean is settled when the
whole block is known.

* `Token` — a stretch of the source with its kind;
* `TokenLine.read` — the tokens of a line, and how the line ends.
-/

namespace Furigana.Markdown

inductive TokenKind where
  /-- Text that stands for itself. -/
  | text
  /-- A character reference with what it stands for. -/
  | reference (value : Text)
  /-- A run of emphasis marks. -/
  | marks (mark : Char) (length : Nat) (flanks : Flanks)
  /-- A run of backticks, the first of which may be escaped. -/
  | ticks (length : Nat) (escaped : Bool)
  | openAngle
  | openBracket (image : Bool)
  | closeBracket
  | softBreak
  /-- A line break that a backslash or else white space at the end of the line makes. -/
  | hardBreak (backslash : Bool)
deriving DecidableEq, Repr

/-- Whether a token is a mark whose meaning is to be settled. -/
def TokenKind.isMark : TokenKind → Bool
  | .marks .. | .ticks .. | .openAngle | .openBracket _ | .closeBracket => true
  | .text | .reference _ | .softBreak | .hardBreak _ => false

/-- A stretch of the source. -/
structure Token where
  kind : TokenKind
  start : Nat
  stop : Nat
deriving DecidableEq, Repr

/-- What an unescaped pipe does to a line. -/
inductive PipeUse where
  /-- It is text. -/
  | plain
  /-- It is text, but with as many as the delimiter row behind has the line is the head of a table. -/
  | counted
  /-- It ends the cell that is read. -/
  | ends
deriving DecidableEq, Repr

/-- How a line ends. -/
inductive LineClose where
  /-- With a cell, or with the source. -/
  | content
  /-- With a line break. -/
  | lineBreak (token : Token)
  /-- As the head of a table. -/
  | tableHead (columns : List ColumnAlignment)
deriving Repr

/-- A line that has been read: its tokens, latest first, and the place behind it. -/
structure TokenLine where
  tokens : List Token
  close : LineClose
  next : Nat

/-- A line that is being read: the tokens so far, latest first, the place where the text behind them
starts, and the number of pipes with the place of the last one. -/
structure LineReader where
  start : Nat
  tokens : List Token
  behind : Nat
  pipes : Nat
  lastPipe : Nat

namespace LineReader

/-- The tokens with the text up to a place. -/
def upTo (r : LineReader) (i : Nat) : List Token :=
  if r.behind < i then ⟨.text, r.behind, i⟩ :: r.tokens else r.tokens

/-- Adds a token from `i` up to `j`. -/
def add (r : LineReader) (kind : TokenKind) (i j : Nat) : LineReader :=
  { r with tokens := ⟨kind, i, j⟩ :: r.upTo i, behind := j }

/-- Drops an escaping backslash at `i`, so that text goes on at `j`. -/
def escape (r : LineReader) (i j : Nat) : LineReader :=
  { r with tokens := r.upTo i, behind := j }

/-- Notes a pipe. -/
def pipe (r : LineReader) (i : Nat) : LineReader := { r with pipes := r.pipes + 1, lastPipe := i }

/-- Ends the content without a line break. -/
def finish (r : LineReader) (s : Source) (i : Nat) : TokenLine :=
  ⟨r.upTo (s.skipBack isInlineSpace r.behind i), .content, i⟩

/-- Ends the line at its line ending.  A backslash makes the break a hard one, if it escapes nothing and
the source goes on; so do two characters of white space. -/
def lineBreak (r : LineReader) (s : Source) (containers : List Container) (use : PipeUse) (i : Nat) :
    TokenLine :=
  let next := (s.lineEnd? i).getD i
  let spaces := s.skipBack isInlineSpace 0 i
  if (i - s.skipBack (· == '\\') 0 i) % 2 = 1 ∧ next < s.size then
    ⟨r.upTo (i - 1), .lineBreak ⟨.hardBreak true, i - 1, next⟩, next⟩
  else
    match if use = .counted ∧ 0 < r.pipes then
        Table.head? s containers r.pipes r.start r.lastPipe next else none with
    | some (columns, behind) => ⟨[], .tableHead columns, behind⟩
    | none =>
      let token : Token := if spaces + 2 ≤ i then ⟨.hardBreak false, spaces, next⟩
        else ⟨.softBreak, i, next⟩
      ⟨r.upTo spaces, .lineBreak token, next⟩

end LineReader

/-- What stands beside the run of marks from `i` up to `j`. -/
def Neighbours.ofPlaces (s : Source) (use : PipeUse) (i j : Nat) : Neighbours where
  before := s.before? i
  after := s.char? j
  inRow := use == .ends
  behindPipe := s.before? i == some '|' && s.before? (i - 1) != some '\\'

namespace TokenLine

/-- Reads on at a place. -/
def readFrom (s : Source) (containers : List Container) (use : PipeUse) (r : LineReader) (i : Nat) :
    TokenLine :=
  if i < s.size then
    match s.char? i with
    | some '\n' | some '\r' =>
      if use = .ends then r.finish s i else r.lineBreak s containers use i
    | some '\\' =>
      if s.isAt '\x60' (i + 1) then
        let more := s.skip (· == '\x60') (i + 2) - (i + 2)
        readFrom s containers use ((r.escape i (i + 1)).add (.ticks (more + 1) true) (i + 1)
          (i + 2 + more)) (i + 2 + more)
      else if use ≠ .plain ∧ s.startsWith ['\\', '|'] (i + 1) then
        -- in a row one backslash escapes the pipe for the cell, the other one in the cell
        readFrom s containers use (r.escape i (if use = .ends then i + 2 else i + 1)) (i + 3)
      else if s.has Text.isAsciiPunctuation (i + 1) then
        readFrom s containers use (r.escape i (i + 1)) (i + 2)
      else readFrom s containers use r (i + 1)
    | some '\x60' =>
      let more := s.skip (· == '\x60') (i + 1) - (i + 1)
      readFrom s containers use (r.add (.ticks (more + 1) false) i (i + 1 + more)) (i + 1 + more)
    | some '<' =>
      readFrom s containers use (if s.isAt '\\' (i + 1) then r else r.add .openAngle i (i + 1)) (i + 1)
    | some '!' =>
      if s.isAt '[' (i + 1) then
        readFrom s containers use (r.add (.openBracket true) i (i + 2)) (i + 2)
      else readFrom s containers use r (i + 1)
    | some '[' => readFrom s containers use (r.add (.openBracket false) i (i + 1)) (i + 1)
    | some ']' => readFrom s containers use (r.add .closeBracket i (i + 1)) (i + 1)
    | some '&' =>
      match Entity.ofPlace? s i with
      | some (value, j) =>
        if i < j then readFrom s containers use (r.add (.reference value) i j) j
        else readFrom s containers use r (i + 1)
      | none => readFrom s containers use r (i + 1)
    | some '|' =>
      if use = .ends then r.finish s i else readFrom s containers use (r.pipe i) (i + 1)
    | some c =>
      if ['*', '_', '~'].contains c then
        let more := s.skip (· == c) (i + 1) - (i + 1)
        let flanks := (Neighbours.ofPlaces s use i (i + 1 + more)).flanks c (more + 1)
        readFrom s containers use
          (if (flanks.opens || flanks.closes) && (c != '~' || more ≤ 1) then
            r.add (.marks c (more + 1) flanks) i (i + 1 + more) else r)
          (i + 1 + more)
      else readFrom s containers use r (i + 1)
    | none => r.finish s i
  else r.finish s i
termination_by s.size - i
decreasing_by all_goals omega

/-- Reads the line at a place, behind what containers ask of it. -/
def read (s : Source) (containers : List Container) (use : PipeUse) (i : Nat) : TokenLine :=
  readFrom s containers use ⟨i, [], i, 0, i⟩ i

end TokenLine

end Furigana.Markdown
