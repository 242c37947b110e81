import Furigana.Text

/-!
# TOML documents

A document is a table: keys with values.  How a table came to be decides what may still be added to it,
so each table keeps its `Origin`.

* `Table.addPair?` — adds a value under a dotted key;
* `Table.openTable?`, `Table.openElement?` — add the table that a header names.
-/

namespace Furigana.Toml

/-- How a table came to be. -/
inductive Origin where
  /-- As a step on the way to the table of some header. -/
  | implied
  /-- By a header of its own. -/
  | header
  /-- As a step of a dotted key. -/
  | dotted
  /-- Between braces; nothing can be added to it. -/
  | inline
deriving DecidableEq, Repr

/-- A value.  Numbers and times only have to be well formed. -/
inductive Value where
  | string (t : Text)
  | boolean (b : Bool)
  | number
  | time
  | array (elements : List Value)
  | table (origin : Origin) (entries : List (Text × Value))
  /-- The tables of a repeated header, latest first. -/
  | tables (elements : List (List (Text × Value)))

/-- The keys and values of a table, in the order of the document. -/
abbrev Table := List (Text × Value)

namespace Table

/-- Puts a value under a key, in the place of the one it had if any. -/
def put (table : Table) (key : Text) (value : Value) : Table :=
  if (table.lookup key).isSome then
    table.map fun (k, v) => if k == key then (k, value) else (k, v)
  else table ++ [(key, value)]

/-- Adds a value under a dotted key.  The tables on the way may be steps of other dotted keys, and tables
that no header names if they are not the last ones, for they take no values this way. -/
def addPair? : Table → List Text → Value → Option Table
  | _, [], _ => none
  | table, [key], value =>
    match table.lookup key with
    | none => some (table.put key value)
    | some _ => none
  | table, key :: k :: rest, value =>
    match table.lookup key with
    | none =>
      (addPair? [] (k :: rest) value).map fun inner => table.put key (.table .dotted inner)
    | some (.table origin inner) =>
      if origin = .dotted ∨ (origin = .implied ∧ rest ≠ []) then
        (addPair? inner (k :: rest) value).map fun inner => table.put key (.table origin inner)
      else none
    | some (.tables (last :: others)) =>
      if rest = [] then none
      else (addPair? last (k :: rest) value).map fun last => table.put key (.tables (last :: others))
    | some _ => none

/-- Changes the table at the end of a path, with the tables on the way added where they are missing.
`change` is given what the last key holds. -/
def update? (change : Option Value → Option Value) : Table → List Text → Option Table
  | _, [] => none
  | table, [key] => (change (table.lookup key)).map fun value => table.put key value
  | table, key :: k :: rest =>
    match table.lookup key with
    | none => (update? change [] (k :: rest)).map fun inner => table.put key (.table .implied inner)
    | some (.table origin inner) =>
      if origin = .inline then none
      else (update? change inner (k :: rest)).map fun inner => table.put key (.table origin inner)
    | some (.tables (last :: others)) =>
      (update? change last (k :: rest)).map fun last => table.put key (.tables (last :: others))
    | some _ => none

/-- Opens the table that a header names.  It has to be new, or only implied so far. -/
def openTable? (table : Table) (path : List Text) : Option Table :=
  table.update?
    (fun
      | none => some (.table .header [])
      | some (.table .implied entries) => some (.table .header entries)
      | some _ => none)
    path

/-- Opens one more table under a repeated header. -/
def openElement? (table : Table) (path : List Text) : Option Table :=
  table.update?
    (fun
      | none => some (.tables [[]])
      | some (.tables elements) => some (.tables ([] :: elements))
      | some _ => none)
    path

/-- Adds a value under a dotted key of the table that the last header names. -/
def addUnder? (table : Table) (path : List Text) (key : List Text) (value : Value) : Option Table :=
  match path with
  | [] => table.addPair? key value
  | _ =>
    table.update?
      (fun
        | some (.table origin entries) =>
          (addPair? entries key value).map (.table origin ·)
        | some (.tables (last :: others)) =>
          (addPair? last key value).map fun last => .tables (last :: others)
        | _ => none)
      path

end Table

end Furigana.Toml
