import Furigana.Text

/-!
# Character classes

The classes that the notation is made of.  A base is **logographic**, the kana that may follow it
are **annotation** characters, a gloss is cut into readings at **separators**, and an explicit form
holds **inner** characters.  The first two are tables of ranges, so that the class of a character
and the written form of the class (`Furigana.Pattern`) come from one place.
-/

namespace Furigana

/-- The characters from `first` to `last`, both included. -/
structure CharRange where
  first : Char
  last : Char
deriving DecidableEq, Repr

/-- Whether a range holds a character. -/
def CharRange.contains (r : CharRange) (c : Char) : Bool := r.first ≤ c && c ≤ r.last

/-- The block of unified ideographs. -/
def logographicRanges : List CharRange := [⟨'\u4e00', '\u9faf'⟩]

/-- Kana, their voicing marks and the prolonged sound mark. -/
def annotationRanges : List CharRange :=
  [⟨'\u3041', '\u3095'⟩, ⟨'\u3099', '\u309c'⟩, ⟨'\u3081', '\u30fa'⟩, ⟨'\u30fc', '\u30fc'⟩]

/-- The glyphs that stand between the readings of a gloss. -/
def separators : List Char := ['.', '．', '。', '・']

/-- The character that suppresses conversion. -/
def escapeChar : Char := '\\'

/-- Whether a character is an ideograph. -/
def isLogographic (c : Char) : Bool := logographicRanges.any (·.contains c)

/-- Whether a character may trail an ideographic base. -/
def isAnnotation (c : Char) : Bool := annotationRanges.any (·.contains c)

/-- Whether a character stands between two readings. -/
def isSeparator (c : Char) : Bool := separators.contains c

/-- Whether a character is an ASCII letter, an ASCII digit or the underscore. -/
def isAsciiWord (c : Char) : Bool := Text.isAsciiAlphanumeric c || c == '_'

/-- Whether a character may stand in the word or the gloss of an explicit form: everything beyond
ASCII, and of ASCII the letters, the digits and the underscore. -/
def isInner (c : Char) : Bool := '\x7f' < c || isAsciiWord c

end Furigana
