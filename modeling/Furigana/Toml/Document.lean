import Furigana.Toml.Quoted
import Furigana.Toml.Scalar

/-!
# Reading TOML

Reads a document statement by statement: headers, which name the table that follows, and pairs of a key
and a value.  `Toml.parse?` is `none` for anything that is not TOML.
-/

namespace Furigana.Toml

/-! ## Gaps -/

/-- What follows a comment, if one starts here. -/
def comment? : Text → Option Text
  | '#' :: t =>
    let body := t.takeWhile fun c => c != '\n'
    let content := if body.getLast? == some '\r' then body.dropLast else body
    if content.any isForbidden then none else some (t.drop content.length)
  | t => some t

/-- What follows spaces, comments and line endings, at most `fuel` lines of them. -/
def gap? : Nat → Text → Option Text
  | 0, t => some t
  | fuel + 1, t =>
    (comment? (t.dropWhile isGap)).bind fun t =>
      match lineEnd? t with
      | some t => gap? fuel t
      | none => some t

/-- What follows the end of a statement: a comment perhaps, and the end of the line. -/
def statementEnd? (t : Text) : Option Text :=
  (comment? (t.dropWhile isGap)).bind fun
    | [] => some []
    | t => lineEnd? t

/-! ## Keys -/

/-- Whether a character may stand in a key without quotes. -/
def isBareKeyChar (c : Char) : Bool := Text.isAsciiAlphanumeric c || c == '_' || c == '-'

/-- One part of a key. -/
def keyPart? (t : Text) : Option (Text × Text) :=
  match t with
  | '"' :: _ | '\'' :: _ => singleLine? t
  | _ =>
    let bare := t.takeWhile isBareKeyChar
    if bare.isEmpty then none else some (bare, t.drop bare.length)

/-- A dotted key of at most `most` parts, and what follows it behind spaces. -/
def keyOf? : (most : Nat) → Text → Option (List Text × Text)
  | 0, _ => none
  | most + 1, t =>
    (keyPart? (t.dropWhile isGap)).bind fun (part, t) =>
      match t.dropWhile isGap with
      | '.' :: t => (keyOf? most t).map fun (parts, t) => (part :: parts, t)
      | t => some ([part], t)

/-- The most parts of a key, and the most arrays and tables between braces inside each other. -/
def nestingLimit : Nat := 80

/-- A dotted key, and what follows it behind spaces. -/
def key? (t : Text) : Option (List Text × Text) := keyOf? nestingLimit t

/-! ## Values -/

mutual

/-- A value at the start of the text, inside of which at most `depth` others are open at once.  At most
`fuel` steps are taken. -/
def value? : (fuel depth : Nat) → Text → Option (Value × Text)
  | 0, _, _ => none
  | fuel + 1, depth, t =>
    match depth, t with
    | _, '"' :: _ | _, '\'' :: _ => (string? t).map fun (s, t) => (.string s, t)
    | 0, '[' :: _ | 0, '\x7b' :: _ => none
    | depth + 1, '[' :: t => (elements? fuel depth t).map fun (vs, t) => (.array vs, t)
    | depth + 1, '\x7b' :: t =>
      (members? fuel depth [] t).map fun (entries, t) => (.table .inline entries, t)
    | _, t => word? t

/-- The rest of an array. -/
def elements? : (fuel depth : Nat) → Text → Option (List Value × Text)
  | 0, _, _ => none
  | fuel + 1, depth, t =>
    match gap? (t.length + 1) t with
    | none => none
    | some (']' :: t) => some ([], t)
    | some t =>
      match value? fuel depth t with
      | none => none
      | some (v, t) =>
        match gap? (t.length + 1) t with
        | some (',' :: t) => (elements? fuel depth t).map fun (vs, t) => (v :: vs, t)
        | some (']' :: t) => some ([v], t)
        | _ => none

/-- The rest of a table between braces, with the entries before it. -/
def members? : (fuel depth : Nat) → Table → Text → Option (Table × Text)
  | 0, _, _, _ => none
  | fuel + 1, depth, entries, t =>
    match gap? (t.length + 1) t with
    | none => none
    | some ('\x7d' :: t) => some (entries, t)
    | some t =>
      match (key? t).bind fun (key, t) => (gap? (t.length + 1) t).map (key, ·) with
      | some (key, '=' :: t) =>
        match (gap? (t.length + 1) t).bind (value? fuel depth) with
        | none => none
        | some (v, t) =>
          match entries.addPair? key v, gap? (t.length + 1) t with
          | some entries, some (',' :: t) => members? fuel depth entries t
          | some entries, some ('\x7d' :: t) => some (entries, t)
          | _, _ => none
      | _ => none

end

/-! ## Statements -/

/-- A document in the making: its tables, and the path of the last header. -/
structure Reading where
  root : Table
  path : List Text

/-- Reads a header, of which the first bracket has been read already. -/
def header? (r : Reading) (t : Text) : Option (Reading × Text) :=
  match t with
  | '[' :: t =>
    match key? t with
    | some (path, ']' :: ']' :: t) =>
      match r.root.openElement? path, statementEnd? t with
      | some root, some t => some (⟨root, path⟩, t)
      | _, _ => none
    | _ => none
  | t =>
    match key? t with
    | some (path, ']' :: t) =>
      match r.root.openTable? path, statementEnd? t with
      | some root, some t => some (⟨root, path⟩, t)
      | _, _ => none
    | _ => none

/-- Reads a key with its value. -/
def pair? (r : Reading) (t : Text) : Option (Reading × Text) :=
  match key? t with
  | some (key, '=' :: t) =>
    let t := t.dropWhile isGap
    match value? (2 * t.length + 2) nestingLimit t with
    | some (v, t) =>
      match r.root.addUnder? r.path key v, statementEnd? t with
      | some root, some t => some (⟨root, r.path⟩, t)
      | _, _ => none
    | none => none
  | _ => none

/-- Reads at most `fuel` statements. -/
def statements? : Nat → Reading → Text → Option Table
  | 0, _, _ => none
  | fuel + 1, r, t =>
    match gap? (t.length + 1) t with
    | none => none
    | some [] => some r.root
    | some ('[' :: t) => (header? r t).bind fun (r, t) => statements? fuel r t
    | some t => (pair? r t).bind fun (r, t) => statements? fuel r t

/-- The table that a document writes.  A byte order mark in front of it is no part of it. -/
def parse? (t : Text) : Option Table :=
  let t := match t with
    | '\ufeff' :: t => t
    | t => t
  statements? (t.length + 1) ⟨[], []⟩ t

end Furigana.Toml
