import Furigana.Ruby
import Furigana.Character

/-!
# Distribution of readings

In `東京都【とう.きょう.と】` the gloss holds one reading for every character of the base.  Kana that
follow the base, as in `食べる【たべる】`, end the gloss too; they are taken off it and pass as plain
text after the annotations.
-/

namespace Furigana

/-- Drops the longest common start of the second text from the first one. -/
def dropShared : Text → Text → Text
  | c :: t, d :: u => if c = d then dropShared t u else c :: t
  | t, _ => t

/-- The gloss without the part of its end that repeats the end of `suffix`.  A gloss that is nothing
but such a repetition is kept. -/
def stripSuffix (gloss suffix : Text) : Text :=
  match dropShared gloss.reverse suffix.reverse with
  | [] => gloss
  | rest => rest.reverse

/-- Gives each reading but the last to one character, and the last one to all that remain. -/
def spread : Text → List Text → List Segment
  | base, [reading] => [.ruby base reading]
  | c :: base, reading :: readings => .ruby [c] reading :: spread base readings
  | _, _ => []

/-- Whether a gloss has readings, and no more of them than the base has characters. -/
def hasReadings (base gloss : Text) : Bool :=
  gloss.any isSeparator && (gloss.pieces isSeparator).length ≤ base.length

/-- The base under its gloss, reading by reading where that is possible. -/
def distribute (base gloss : Text) : List Segment :=
  if hasReadings base gloss then spread base (gloss.pieces isSeparator) else [.ruby base gloss]

/-- The segments of a detected word: the annotated base, then the kana that follow it. -/
def split (base suffix gloss : Text) : List Segment :=
  distribute base (stripSuffix gloss suffix) ++ if suffix.isEmpty then [] else [.literal suffix]

end Furigana
