import Furigana.Distribution
import Furigana.Scan

/-!
# Detected glosses

Prose often glosses a word in brackets already, as in `明日【あす】` or `食べる【たべる】`.  Such a gloss is
detected by its shape: ideographs, kana that trail them, and a bracketed gloss.  The character in
front of the word belongs to the occurrence too, so that an escape up to one character away still
guards it.

* `Brackets.detect` recognises an occurrence at the start of a text;
* `Brackets.apply` converts the occurrences in a text;
* `Brackets.compileList` reads the list of pairs to detect.
-/

namespace Furigana

/-- A detected word: the character in front of it, if that counts, then the ideographs, the kana that
trail them and the gloss. -/
structure Detection where
  boundary : Text
  base : Text
  suffix : Text
  gloss : Text
deriving DecidableEq, Repr

/-- What a detected word becomes.  Without alignment the ideographs carry the whole gloss. -/
def Detection.segments (aligned : Bool) (d : Detection) : List Segment :=
  if aligned then Furigana.split d.base d.suffix d.gloss
  else [.ruby d.base d.gloss, .literal d.suffix]

namespace Brackets

/-- Whether a character may stand in a detected gloss.  The glyphs of the pair are excluded among the
characters beyond ASCII only. -/
def allowsInGloss (b : Brackets) (c : Char) : Bool :=
  ('\x7f' < c && c != b.opening && c != b.closing) || isAsciiWord c || isSeparator c

/-- A detected word as it is written. -/
def write (b : Brackets) (d : Detection) : Text :=
  d.boundary ++ d.base ++ d.suffix ++ b.opening :: d.gloss ++ [b.closing]

/-- A gloss between the two glyphs at the start of the text. -/
def findGloss (b : Brackets) : Text → Option Text
  | [] => none
  | c :: t =>
    if c = b.opening then
      (runThen b.allowsInGloss ([b.closing].isPrefixOf? ·) t).map (·.1)
    else none

/-- A glossed word at the start of the text: the longest base for which the rest can follow, for it
the longest run of kana, for that the longest gloss. -/
def findWord (b : Brackets) (boundary : Text) (t : Text) : Option (Detection × Text) :=
  (runThen isLogographic (runOrNoneThen isAnnotation b.findGloss) t).map
    fun (base, suffix, gloss) =>
      (⟨boundary, base, suffix, gloss⟩, b.write ⟨boundary, base, suffix, gloss⟩)

/-- The occurrence at the start of the text.  It starts with the base, or with one other character
directly before it. -/
def detect (b : Brackets) : Text → Option (Detection × Text)
  | [] => none
  | c :: t => if isLogographic c then b.findWord [] (c :: t) else b.findWord [c] t

/-- A text cut at the glosses in brackets of the pair. -/
def scan (b : Brackets) (t : Text) : List (Piece Detection) := Furigana.scan b.detect none t

/-- Converts every detected word that is not escaped. -/
def apply (b : Brackets) (aligned : Bool) (fallback : Brackets) (t : Text) : Text :=
  rewrite (fun d => d.boundary ++ fallback.markup (d.segments aligned)) (b.scan t)

/-- The pairs that a list is written with. -/
def entries (list : Text) : List Text := list.pieces (· == '|')

/-- Reads a pair, with lenticular brackets in place of a malformed one. -/
def ofText (t : Text) : Brackets := (ofText? t).getD lenticular

/-- The pairs of a written list, in order. -/
def compileList (list : Text) : List Brackets := (entries list).map ofText

end Brackets

end Furigana
