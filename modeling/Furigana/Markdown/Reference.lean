import Furigana.Markdown.Entity
import Furigana.Markdown.LineStart
import Furigana.Text.CaseFold

/-!
# Links and their definitions

The parts of a link — label, destination and title — and the definitions `[label]: destination "title"`
that reference links look up.

A scanner takes the place where its construct starts and gives what it read with the place behind it.
What may reach over several lines also takes `newLine`, the place where the next line goes on, if it
may.
-/

namespace Furigana.Markdown

/-- Where a link leads. -/
structure Reference where
  target : Text
  title : Text
deriving DecidableEq, Repr

/-- Definitions by folded label, latest first. -/
abbrev References := List (Text × Reference)

namespace Reference

/-- The definition of a label. -/
def find? (references : References) (label : Text) : Option Reference := references.lookup label

/-- The bytes that a link by reference copies from its definition. -/
def cost (r : Reference) : Nat := r.target.byteLength + r.title.byteLength

/-- The bytes that the links of a document of so many bytes may copy from definitions before further
references are text. -/
def allowance (bytes : Nat) : Nat := max bytes 100000

/-- Adds a definition, unless the label has one already. -/
def define (references : References) (label : Text) (r : Reference) : References :=
  match find? references label with
  | some _ => references
  | none => (label, r) :: references

/-! ## Labels -/

/-- What a label's length has to stay below.  It counts the bytes of characters beyond ASCII, of escapes
and of white space. -/
def labelLimit : Nat := 1000

/-- Reads a run of white space with at most one line ending: its width, in which only a single space
counts as one, and the place behind it. -/
def labelSpace? (s : Source) (newLine : Nat → Option Nat) (ended : Bool) (width i : Nat) :
    Option (Nat × Nat) :=
  if i < s.size then
    if s.has isLineEnd i then
      match if ended then none else (s.lineEnd? i).bind newLine with
      | some j => if i < j then labelSpace? s newLine true (width + 2) j else none
      | none => none
    else if s.has isSpace i then
      labelSpace? s newLine ended (if s.isAt ' ' i then width + 1 else width + 2) (i + 1)
    else some (width, i)
  else some (width, i)
termination_by s.size - i
decreasing_by all_goals omega

/-- Reads a label behind its opening bracket, runs of white space as single spaces.  It has no bracket
without an escape, and not only white space. -/
def labelRest? (s : Source) (newLine : Nat → Option Nat) (length : Nat) (blank : Bool) (read : Text)
    (i : Nat) : Option (Text × Nat) :=
  if i < s.size then
    if labelLimit ≤ length then none
    else
      match s.char? i with
      | some ']' => if blank then none else some (read.reverse, i + 1)
      | some '[' => none
      | some '\\' =>
        match s.char? (i + 1) with
        | some c =>
          labelRest? s newLine (length + 1 + c.utf8Size) false (c :: '\\' :: read) (i + 2)
        | none => none
      | some c =>
        if isSpace c then
          match labelSpace? s newLine false 0 i with
          | some (width, j) =>
            if i < j then
              labelRest? s newLine (length + if width = 1 then 1 else j - i) blank (' ' :: read) j
            else none
          | none => none
        else
          labelRest? s newLine (if c.utf8Size = 1 then length else length + c.utf8Size) false
            (c :: read) (i + 1)
      | none => none
  else none
termination_by s.size - i
decreasing_by all_goals omega

/-- A label without white space at its ends and without regard to case. -/
def normalize (label : Text) : Text :=
  let words := (label.pieces isSpace).filter fun w => !w.isEmpty
  Text.fold ([' '].intercalate words)

/-- The label at a place. -/
def label? (s : Source) (newLine : Nat → Option Nat) (i : Nat) : Option (Text × Nat) :=
  if s.isAt '[' i then
    (labelRest? s newLine 0 true [] (i + 1)).map fun (label, j) => (normalize label, j)
  else none

/-! ## Destinations -/

/-- The most parentheses that may be open in front of another one in a destination. -/
def nestingLimit : Nat := 32

/-- Whether a backslash stands at a place and escapes what follows it. -/
def isEscape (s : Source) (i : Nat) : Bool := s.isAt '\\' i && s.has Text.isAsciiPunctuation (i + 1)

/-- The place of the angle bracket that closes a destination. -/
def pointedEnd? (s : Source) (i : Nat) : Option Nat :=
  if i < s.size then
    if s.has (fun c => isLineEnd c || c == '<') i then none
    else if s.isAt '>' i then some i
    else if isEscape s i then pointedEnd? s (i + 2)
    else pointedEnd? s (i + 1)
  else none
termination_by s.size - i
decreasing_by all_goals omega

/-- The end of a destination without angle brackets: a control character, a space or a closing
parenthesis that it did not open. -/
def bareEnd? (s : Source) (nesting i : Nat) : Option Nat :=
  if i < s.size then
    if s.has (· ≤ ' ') i then if nesting = 0 then some i else none
    else if s.isAt '(' i then
      if nestingLimit < nesting then none else bareEnd? s (nesting + 1) (i + 1)
    else if s.isAt ')' i then if nesting = 0 then some i else bareEnd? s (nesting - 1) (i + 1)
    else if isEscape s i then bareEnd? s nesting (i + 2)
    else bareEnd? s nesting (i + 1)
  else if nesting = 0 then some i else none
termination_by s.size - i
decreasing_by all_goals omega

/-- The destination at a place, as it is written. -/
def destination? (s : Source) (i : Nat) : Option (Text × Nat) :=
  if s.isAt '<' i then
    (pointedEnd? s (i + 1)).map fun j => (s.slice (i + 1) j, j + 1)
  else (bareEnd? s 0 i).map fun j => (s.slice i j, j)

/-! ## Titles -/

/-- The mark that closes a title, by the one that opens it. -/
def titleClose? : Char → Option Char
  | '"' => some '"'
  | '\'' => some '\''
  | '(' => some ')'
  | _ => none

/-- The title of a link behind its opening mark, with escapes and references resolved. -/
def titleRest? (s : Source) (inTable : Bool) (newLine : Nat → Option Nat) (opening closing : Char)
    (read : Text) (i : Nat) : Option (Text × Nat) :=
  if i < s.size then
    if s.isAt closing i then some (read.reverse, i + 1)
    else if s.isAt opening i then none
    else
      match if s.has isLineEnd i then newLine i else none with
      | some j =>
        if i < j then titleRest? s inTable newLine opening closing ('\n' :: read) j else none
      | none =>
        match if s.isAt '&' i then Entity.ofPlace? s i else none with
        | some (value, j) =>
          if i < j then titleRest? s inTable newLine opening closing (value.reverse ++ read) j
          else none
        | none =>
          let escape :=
            if inTable && s.startsWith ['\\', '\\', '|'] i then 2 else if isEscape s i then 1 else 0
          titleRest? s inTable newLine opening closing
            ((s.char? (i + escape)).toList ++ read) (i + escape + 1)
  else none
termination_by s.size - i
decreasing_by all_goals omega

/-- The title of a link at a place. -/
def title? (s : Source) (inTable : Bool) (newLine : Nat → Option Nat) (i : Nat) :
    Option (Text × Nat) :=
  (s.char? i).bind fun opening =>
    (titleClose? opening).bind fun closing =>
      titleRest? s inTable newLine opening closing [] (i + 1)

/-- The title of a definition behind its opening mark, as it is written.  Its lines lose their
indentation, and none is blank. -/
def definitionTitleRest? (s : Source) (containers : List Container) (closing : Char) (read : Text)
    (i : Nat) : Option (Text × Nat) :=
  if i < s.size then
    if s.isAt closing i then some (read.reverse, i + 1)
    else if closing = ')' ∧ s.isAt '(' i then none
    else if s.has isLineEnd i then
      match (s.lineEnd? i).bind (definitionLine? s containers) with
      | some j =>
        let k := s.skip isSpaceOrTab j
        if i < k ∧ ¬ s.isBlank k then definitionTitleRest? s containers closing ('\n' :: read) k
        else none
      | none => none
    else
      let escape := if s.isAt '\\' i && s.has (fun c => !isLineEnd c) (i + 1) then 1 else 0
      definitionTitleRest? s containers closing
        ((s.slice i (i + escape + 1)).reverse ++ read) (i + escape + 1)
  else none
termination_by s.size - i
decreasing_by all_goals omega

/-- The title of a definition at a place, if nothing but white space is behind it on its line. -/
def definitionTitle? (s : Source) (containers : List Container) (i : Nat) : Option (Text × Nat) :=
  ((s.char? i).bind titleClose?).bind fun closing =>
    (definitionTitleRest? s containers closing [] (i + 1)).filter fun (_, j) => s.isBlank j

/-! ## Definitions -/

/-- The white space between the parts of a definition, with at most one line ending: whether there is
one, and the place behind the space. -/
def definitionSpace? (s : Source) (containers : List Container) (i : Nat) : Option (Bool × Nat) :=
  let j := s.skip isInlineSpace i
  match s.lineEnd? j with
  | none => some (false, j)
  | some next =>
    (definitionLine? s containers next).bind fun k =>
      let k := s.skip isInlineSpace k
      if (s.lineEnd? k).isSome then none else some (true, k)

/-- The definition at a place and the place behind it.  A title that has something else on its line is no
part of a definition, and one on the line of the destination prevents it. -/
def definition? (s : Source) (containers : List Container) (i : Nat) :
    Option ((Text × Reference) × Nat) :=
  (label? s (definitionLine? s containers) i).bind fun (label, colon) =>
    if !s.isAt ':' colon then none
    else
      (definitionSpace? s containers (colon + 1)).bind fun (_, start) =>
        (destination? s start).bind fun (target, stop) =>
          let define (title : Text) (stop : Nat) : (Text × Reference) × Nat :=
            ((label, ⟨Entity.resolve false target, Entity.resolve false title⟩), stop)
          if stop = start then none
          else
            match definitionSpace? s containers stop with
            | none => some (define [] stop)
            | some (ended, j) =>
              if j = stop then none
              else
                match definitionTitle? s containers j with
                | some (title, k) => some (define title k)
                | none => if ended then some (define [] stop) else none

end Reference

end Furigana.Markdown
