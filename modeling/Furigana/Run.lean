import Furigana.Character

/-!
# Runs

A word is cut into its maximal stretches of ideographs and of other characters.
-/

namespace Furigana

/-- A stretch of a word, all ideographs or none. -/
structure Run where
  text : Text
  logographic : Bool
deriving DecidableEq, Repr

/-- Puts a character in front of a list of runs: into the first run if the kinds agree, else as a
run of its own. -/
def Run.extend (c : Char) : List Run → List Run
  | [] => [⟨[c], isLogographic c⟩]
  | r :: rs =>
    if r.logographic = isLogographic c then ⟨c :: r.text, r.logographic⟩ :: rs
    else ⟨[c], isLogographic c⟩ :: r :: rs

/-- The maximal runs of a word, in order. -/
def runs (word : Text) : List Run := word.foldr Run.extend []

@[simp] theorem runs_nil : runs [] = [] := rfl

@[simp] theorem runs_cons (c : Char) (word : Text) :
    runs (c :: word) = Run.extend c (runs word) := rfl

end Furigana
