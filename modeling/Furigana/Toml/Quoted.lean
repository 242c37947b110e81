import Furigana.Text

/-!
# TOML strings

The four kinds of strings: basic and literal ones, each on one line or on several.

A scanner takes a text and gives what it read together with what follows.
-/

namespace Furigana.Toml

/-- Whether a character is one of the controls that no string and no comment holds. -/
def isForbidden (c : Char) : Bool := (c < ' ' && c != '\t') || c == '\x7f'

/-- Whether a character is a space or a tab. -/
def isGap (c : Char) : Bool := c == ' ' || c == '\t'

/-- The end of a line at the start of the text. -/
def lineEnd? : Text → Option Text
  | '\n' :: t => some t
  | '\r' :: '\n' :: t => some t
  | _ => none

/-- The character that so many hexadecimal digits name. -/
def codePoint? (digits : Nat) (t : Text) : Option (Char × Text) :=
  let code := t.take digits
  let n := Text.number 16 code
  if code.length = digits && code.all (fun c => (Text.hexValue? c).isSome) && n.isValidChar then
    some (Char.ofNat n, t.drop digits)
  else none

/-- What stands behind a backslash in a basic string, if it names a character. -/
def escape? : Text → Option (Char × Text)
  | 'b' :: t => some ('\x08', t)
  | 't' :: t => some ('\t', t)
  | 'n' :: t => some ('\n', t)
  | 'f' :: t => some ('\x0c', t)
  | 'r' :: t => some ('\r', t)
  | 'e' :: t => some ('\x1b', t)
  | '"' :: t => some ('"', t)
  | '\\' :: t => some ('\\', t)
  | 'x' :: t => codePoint? 2 t
  | 'u' :: t => codePoint? 4 t
  | 'U' :: t => codePoint? 8 t
  | _ => none

/-- The rest of a basic string on one line.  It has at most `fuel` characters. -/
def basic? : Nat → Text → Option (Text × Text)
  | 0, _ => none
  | _, [] => none
  | _, '"' :: t => some ([], t)
  | fuel + 1, '\\' :: t =>
    (escape? t).bind fun (c, t) => (basic? fuel t).map fun (s, rest) => (c :: s, rest)
  | fuel + 1, c :: t =>
    if isForbidden c then none else (basic? fuel t).map fun (s, rest) => (c :: s, rest)

/-- The rest of a literal string on one line. -/
def literal? : Text → Option (Text × Text)
  | [] => none
  | '\'' :: t => some ([], t)
  | c :: t => if isForbidden c then none else (literal? t).map fun (s, rest) => (c :: s, rest)

/-- The end of a string on several lines: three quotes, in front of which up to two more belong to the
string. -/
def closing? (quote : Char) (t : Text) : Option (Text × Text) :=
  let quotes := (t.takeWhile (· == quote)).length
  if 3 ≤ quotes then
    let own := min (quotes - 3) 2
    some (List.replicate own quote, t.drop (own + 3))
  else none

/-- What follows gaps and line endings. -/
def skipLines : Text → Text
  | ' ' :: t | '\t' :: t | '\n' :: t | '\r' :: '\n' :: t => skipLines t
  | t => t

/-- What follows the white space behind a backslash that ends a line. -/
def joined? (t : Text) : Option Text := (lineEnd? (t.dropWhile isGap)).map skipLines

/-- The rest of a string on several lines, at most `fuel` characters of it.  In a basic one a backslash
escapes a character or joins two lines.  Line endings are kept as they are written. -/
def multiLine? (quote : Char) : Nat → Text → Option (Text × Text)
  | 0, _ => none
  | fuel + 1, t =>
    match closing? quote t with
    | some closed => some closed
    | none =>
      match t with
      | [] => none
      | c :: rest =>
        if c = '\\' && quote = '"' then
          match joined? rest with
          | some rest => multiLine? quote fuel rest
          | none =>
            (escape? rest).bind fun (d, rest) =>
              (multiLine? quote fuel rest).map fun (s, rest) => (d :: s, rest)
        else if (lineEnd? t).isNone && isForbidden c then none
        else (multiLine? quote fuel rest).map fun (s, rest) => (c :: s, rest)

/-- A string on one line at the start of the text. -/
def singleLine? : Text → Option (Text × Text)
  | '"' :: t => basic? (t.length + 1) t
  | '\'' :: t => literal? t
  | _ => none

/-- A string at the start of the text.  A line ending right behind the opening quotes does not belong
to it. -/
def string? (t : Text) : Option (Text × Text) :=
  let several (quote : Char) (t : Text) : Option (Text × Text) :=
    multiLine? quote (t.length + 1) ((lineEnd? t).getD t)
  match t with
  | '"' :: '"' :: '"' :: t => several '"' t
  | '\'' :: '\'' :: '\'' :: t => several '\'' t
  | t => singleLine? t

end Furigana.Toml
