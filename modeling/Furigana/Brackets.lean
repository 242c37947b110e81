import Furigana.Text

/-!
# Bracket pairs

A pair of glyphs is written as a text of exactly two characters, `【】`.  Pairs delimit the two halves
of an explicit form, the gloss of a detected word and the plain-text fallback of an annotation.
-/

namespace Furigana

/-- An opening and a closing glyph. -/
structure Brackets where
  opening : Char
  closing : Char
deriving DecidableEq, Repr

namespace Brackets

/-- The lenticular brackets `【】`, which stand in wherever a pair is malformed. -/
def lenticular : Brackets := ⟨'【', '】'⟩

/-- Reads a pair: the text has to have exactly two characters. -/
def ofText? : Text → Option Brackets
  | [o, c] => some ⟨o, c⟩
  | _ => none

/-- The pair as it is written. -/
def toText (b : Brackets) : Text := [b.opening, b.closing]

@[simp] theorem ofText?_toText (b : Brackets) : ofText? b.toText = some b := rfl

theorem ofText?_eq_some_iff {t : Text} {b : Brackets} : ofText? t = some b ↔ t = b.toText := by
  constructor
  · intro h
    unfold ofText? at h
    split at h
    · cases h; rfl
    · cases h
  · rintro rfl; rfl

end Brackets

end Furigana
