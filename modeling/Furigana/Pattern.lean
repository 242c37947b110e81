import Furigana.Detection
import Furigana.Form

/-!
# Forms and pairs as regular expressions

The search of `Form.find` and `Brackets.detect` as the source of a regular expression, for tools that
take one.  Glyphs and separators are arbitrary text, so each of their characters that has a meaning
in an expression is escaped.
-/

namespace Furigana.Pattern

/-- The characters that have a meaning in a regular expression. -/
def metacharacters : List Char :=
  ['\\', '.', '+', '*', '?', '(', ')', '|', '[', ']', '\x7b', '\x7d', '^', '$', '#', '&', '-', '~']

/-- The source that matches one character. -/
def char (c : Char) : Text := if metacharacters.contains c then ['\\', c] else [c]

/-- The source that matches a text. -/
def literal (t : Text) : Text := t.flatMap char

/-- A character by number. -/
def codePoint (c : Char) : Text := "\\x\x7b".toList ++ Text.hexadecimal c.toNat ++ "\x7d".toList

/-- A range as part of a class. -/
def range (r : CharRange) : Text :=
  if r.first = r.last then codePoint r.first else codePoint r.first ++ '-' :: codePoint r.last

/-- The ranges of a class. -/
def ranges (rs : List CharRange) : Text := rs.flatMap range

/-- The class of ideographs, without its brackets. -/
def logographic : Text := ranges logographicRanges

/-- The class of kana and their marks, without its brackets. -/
def annotation : Text := ranges annotationRanges

/-- The class of separators, without its brackets. -/
def separator : Text := separators.flatMap char

/-- One or more inner characters. -/
def inner : Text := "(?:[^\\x00-\\x7F]|[0-9A-Za-z_])+".toList

/-- A form.  The first group is the word and the second one the gloss. -/
def form (f : Form) : Text :=
  char f.main.opening ++ '(' :: inner ++ ')' :: char f.main.closing ++ literal f.separator
    ++ char f.gloss.opening ++ '(' :: inner ++ ')' :: char f.gloss.closing

/-- A pair around detected glosses.  The groups are boundary, base, trailing kana and gloss. -/
def detection (b : Brackets) : Text :=
  "(^|[^".toList ++ logographic ++ "]|)([".toList ++ logographic ++ "]+)([".toList ++ annotation
    ++ "]*)".toList ++ char b.opening ++ "((?:[^".toList ++ char b.opening ++ char b.closing
    ++ "\\x00-\\x7F]|[0-9A-Za-z_]|[".toList ++ separator ++ "])+)".toList ++ char b.closing

end Furigana.Pattern
