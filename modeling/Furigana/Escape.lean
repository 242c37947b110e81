import Furigana.Brackets
import Furigana.Character

/-!
# Escaped fallback brackets

The last step of a conversion: an escape directly before a fallback glyph disappears, so that
`\【note\】` shows as `【note】`.
-/

namespace Furigana

/-- Drops every escape character that stands directly before one of the two glyphs. -/
def unescape (b : Brackets) : Text → Text
  | [] => []
  | [c] => [c]
  | c :: d :: t =>
    if c = escapeChar ∧ (d = b.opening ∨ d = b.closing) then unescape b (d :: t)
    else c :: unescape b (d :: t)

end Furigana
