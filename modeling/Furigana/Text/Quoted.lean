import Furigana.Text.Unprintable

/-!
# Quoted text

A text as a message shows it: in double quotes, with everything escaped that would not be seen as it
is.
-/

namespace Furigana.Text

/-- One character inside quotes.  Quotes, backslashes and the common controls are escaped by a letter,
what cannot be seen by its number. -/
def quoteChar (c : Char) : Text :=
  if c = '"' then ['\\', '"']
  else if c = '\\' then ['\\', '\\']
  else if c = '\n' then ['\\', 'n']
  else if c = '\r' then ['\\', 'r']
  else if c = '\t' then ['\\', 't']
  else if c = '\x00' then ['\\', '0']
  else if isUnprintable c then "\\u\x7b".toList ++ hexadecimal c.toNat ++ "\x7d".toList
  else [c]

/-- A text in double quotes. -/
def quoted (t : Text) : Text := '"' :: t.flatMap quoteChar ++ ['"']

end Furigana.Text
