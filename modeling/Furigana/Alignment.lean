import Furigana.Ruby
import Furigana.Run

/-!
# Alignment of a gloss with its word

The word `食べ物` has one gloss, `たべもの`.  Its run `べ`, which is not ideographic, is an anchor: the
gloss is cut there, so that `食` reads `た` and `物` reads `もの`.

* `alignRuns?` — walks runs and gloss together, and fails when gloss is left over at the end;
* `align` — the alignment, with the whole word under the whole gloss where walking is impossible.
-/

namespace Furigana

/-- The gloss before an anchor, and what follows the anchor unless that is empty.  A gloss without
the anchor stays whole and nothing follows it. -/
def cutAtAnchor (gloss anchor : Text) : Text × Option Text :=
  match Text.cutAt? anchor gloss with
  | some (before, []) => (before, none)
  | some (before, after) => (before, some after)
  | none => (gloss, none)

/-- Walks the runs of a word, ideographs first, along the gloss that remains.  Once the gloss is
used up the runs pass without annotation; gloss that outlasts the runs is a failure. -/
def alignRuns? : Option Text → List Run → Option (List Segment)
  | none, runs => some (runs.map fun r => .literal r.text)
  | some _, [] => none
  | some gloss, [base] => some [.ruby base.text gloss]
  | some gloss, base :: anchor :: runs =>
    let (reading, after) := cutAtAnchor gloss anchor.text
    (alignRuns? after runs).map fun rest => .ruby base.text reading :: .literal anchor.text :: rest

/-- Whether a word can be aligned at all: it starts with an ideograph and has an anchor. -/
def isAnchored (word : Text) : Bool :=
  match runs word with
  | first :: _ :: _ => first.logographic
  | _ => false

/-- Distributes a gloss over the runs of a word.  A word without an anchor, or one that does not use
up the gloss, is annotated as a whole. -/
def align (word gloss : Text) : List Segment :=
  if isAnchored word then (alignRuns? (some gloss) (runs word)).getD [.ruby word gloss]
  else [.ruby word gloss]

end Furigana
