import Furigana.Markdown.Entity.Table
import Furigana.Markdown.Source

/-!
# Character references

`&amp;`, `&#38;` and `&#x26;` stand for characters.  A number that is no character, or zero, stands for
the replacement character.
-/

namespace Furigana.Markdown.Entity

/-- The character with a given number. -/
def ofNumber (n : Nat) : Char := if n ≠ 0 ∧ n.isValidChar then Char.ofNat n else '\ufffd'

/-- The text that a name stands for. -/
def ofName? (name : Text) : Option Text :=
  match name with
  | [] => none
  | letter :: _ => ((namedWith letter).lookup (String.ofList name)).map fun ns => ns.map Char.ofNat

/-- Digits and a semicolon at the start of the text: at least one digit and at most `most`. -/
def scanNumber? (isDigit : Char → Bool) (base most : Nat) (t : Text) : Option (Text × Text) :=
  let digits := t.takeWhile isDigit
  match digits, t.drop digits.length with
  | _ :: _, ';' :: rest =>
    if digits.length ≤ most then some ([ofNumber (Text.number base digits)], rest) else none
  | _, _ => none

/-- A reference at the start of the text, of which `&` has been read already: what it stands for and
what follows it. -/
def scan? : Text → Option (Text × Text)
  | '#' :: 'x' :: t | '#' :: 'X' :: t => scanNumber? (fun c => (Text.hexValue? c).isSome) 16 6 t
  | '#' :: t => scanNumber? Text.isAsciiDigit 10 7 t
  | t =>
    let name := t.takeWhile Text.isAsciiAlphanumeric
    match t.drop name.length with
    | ';' :: rest => (ofName? name).map (·, rest)
    | _ => none

/-- The most characters that a reference has behind its `&`. -/
def longest : Nat := 33

/-- The reference behind the `&` at a place: what it stands for, and the place behind it. -/
def ofPlace? (s : Source) (i : Nat) : Option (Text × Nat) :=
  let t := s.slice (i + 1) (i + 1 + longest)
  (scan? t).map fun (value, rest) => (value, i + 1 + (t.length - rest.length))

/-- A text with its references and its escapes of punctuation resolved, without carriage returns.  In a
table two backslashes escape a pipe, because one does so already for the cell. -/
def resolve (inTable : Bool) (t : Text) : Text := go t.length t
where
  /-- Resolves at most `fuel` characters, which is enough if there are no more. -/
  go : Nat → Text → Text
  | 0, t => t
  | _, [] => []
  | fuel + 1, '&' :: t =>
    match scan? t with
    | some (value, rest) => value ++ go fuel rest
    | none => '&' :: go fuel t
  | fuel + 1, '\\' :: c :: t =>
    if inTable && c == '\\' && t.head? == some '|' then '|' :: go fuel t.tail
    else if Text.isAsciiPunctuation c then c :: go fuel t
    else '\\' :: go fuel (c :: t)
  | fuel + 1, '\r' :: t => go fuel t
  | fuel + 1, c :: t => c :: go fuel t

end Furigana.Markdown.Entity
