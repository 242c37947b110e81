import Furigana.Character

/-!
# Scanning

What every kind of notation shares: how an occurrence is searched for, and what an escape does.

* `runThen` — the longest run of a class after which the rest of a search succeeds;
* `scan` — a text cut into plain characters and the occurrences found from left to right;
* `rewrite` — the text again, with the occurrences that are not escaped replaced.
-/

namespace Furigana

/-- The longest non-empty run of `p` at the start of the text after which `next` succeeds. -/
def runThen {α : Type} (p : Char → Bool) (next : Text → Option α) : Text → Option (Text × α)
  | [] => none
  | c :: t =>
    if p c then
      match runThen p next t with
      | some (run, a) => some (c :: run, a)
      | none => (next t).map ([c], ·)
    else none

/-- The longest run of `p`, possibly empty, after which `next` succeeds. -/
def runOrNoneThen {α : Type} (p : Char → Bool) (next : Text → Option α) (t : Text) :
    Option (Text × α) :=
  (runThen p next t).or ((next t).map ([], ·))

/-- A stretch of a scanned text. -/
inductive Piece (α : Type) where
  /-- A character outside every occurrence. -/
  | plain (c : Char)
  /-- An occurrence with the text it takes up, and whether an escape guards it. -/
  | found (escaped : Bool) (matched : Text) (occurrence : α)
deriving Repr

/-- The text that a piece takes up. -/
def Piece.text {α : Type} : Piece α → Text
  | .plain c => [c]
  | .found _ matched _ => matched

/-- Whether an escape guards a stretch of text: it holds one, or one stands directly before it. -/
def isEscaped (before : Option Char) (matched : Text) : Bool :=
  matched.contains escapeChar || before == some escapeChar

/-- Cuts a text into pieces, from left to right.  `find` says whether an occurrence starts at a
place, and which text it takes up; the search goes on behind it.  `before` is the character in front
of the text. -/
def scan {α : Type} (find : Text → Option (α × Text)) (before : Option Char) :
    Text → List (Piece α)
  | [] => []
  | c :: t =>
    match find (c :: t) with
    | some (a, matched) =>
      .found (isEscaped before matched) matched a
        :: scan find matched.getLast? (t.drop (matched.length - 1))
    | none => .plain c :: scan find (some c) t
termination_by t => t.length
decreasing_by all_goals simp only [List.length_cons, List.length_drop]; omega

/-- The text of scanned pieces, with each occurrence that is not escaped replaced. -/
def rewrite {α : Type} (replace : α → Text) (pieces : List (Piece α)) : Text :=
  pieces.flatMap fun
    | .plain c => [c]
    | .found escaped matched a => if escaped then matched else replace a

/-- Whether a scan found anything, escaped or not. -/
def hasOccurrence {α : Type} (pieces : List (Piece α)) : Bool :=
  pieces.any fun
    | .plain _ => false
    | .found _ _ _ => true

/-- The occurrences of a scan that no escape guards. -/
def unguarded {α : Type} (pieces : List (Piece α)) : List α :=
  pieces.filterMap fun
    | .plain _ => none
    | .found escaped _ a => if escaped then none else some a

end Furigana
