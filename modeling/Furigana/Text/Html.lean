import Furigana.Text

/-!
# Escaping for HTML

Three contexts, each with what it cannot hold as it is: element text, text of which nothing more is
known, and the address in an attribute.
-/

namespace Furigana.Text

/-- A character of element text. -/
def escapeBodyChar : Char → Text
  | '&' => "&amp;".toList
  | '<' => "&lt;".toList
  | '>' => "&gt;".toList
  | c => [c]

/-- Element text: the characters that could start markup or a reference. -/
def escapeBody (t : Text) : Text := t.flatMap escapeBodyChar

/-- A character of text that may also stand in double quotes. -/
def escapeHtmlChar : Char → Text
  | '"' => "&quot;".toList
  | c => escapeBodyChar c

/-- Text that may also stand in double quotes. -/
def escapeHtml (t : Text) : Text := t.flatMap escapeHtmlChar

/-- A character of an attribute's value. -/
def escapeAttributeChar : Char → Text
  | '\'' => "&#39;".toList
  | c => escapeHtmlChar c

/-- The value of an attribute, in quotes of either kind. -/
def escapeAttribute (t : Text) : Text := t.flatMap escapeAttributeChar

/-- The ASCII characters beside letters and digits that an address holds as they are. -/
def addressMarks : List Char :=
  ['!', '#', '$', '%', '(', ')', '*', '+', ',', '-', '.', '/', ':', ';', '=', '?', '@', '^', '_', '~']

/-- A byte as `%` and two upper-case hexadecimal digits. -/
def percentEncoded (b : UInt8) : Text :=
  let digit (n : Nat) : Char := Char.ofNat (if n < 10 then 48 + n else 55 + n)
  ['%', digit (b.toNat / 16), digit (b.toNat % 16)]

/-- A character of an address.  What an address cannot hold is written byte by byte. -/
def escapeAddressChar (c : Char) : Text :=
  if isAsciiAlphanumeric c || addressMarks.contains c then [c]
  else if c = '&' then "&amp;".toList
  else if c = '\'' then "&#x27;".toList
  else (String.utf8EncodeChar c).flatMap percentEncoded

/-- The address in an attribute. -/
def escapeAddress (t : Text) : Text := t.flatMap escapeAddressChar

end Furigana.Text
