import Furigana.Markdown.Source

/-!
# Automatic links

An address in angle brackets is a link: one with a scheme, or one for e-mail.
-/

namespace Furigana.Markdown.Autolink

/-- The place behind the address with a scheme that starts at a place and its closing angle bracket. -/
def address? (s : Source) (i : Nat) : Option Nat :=
  let colon := s.skip (fun c => Text.isAsciiAlphanumeric c || ['.', '-', '+'].contains c) i
  let j := s.skip (fun c => ' ' < c && c != '<' && c != '>') (colon + 1)
  if s.has Text.isAsciiLetter i && i + 2 ≤ colon && colon ≤ i + 32 && s.isAt ':' colon
      && s.isAt '>' j then some (j + 1)
  else none

/-- Whether a character may stand in the local part of an e-mail address. -/
def isLocalPart (c : Char) : Bool :=
  Text.isAsciiAlphanumeric c || ".!#$%&'*+/=?^_`\x7b|\x7d~-".toList.contains c

/-- Whether a character may stand in a label of a domain. -/
def isLabelPart (c : Char) : Bool := Text.isAsciiAlphanumeric c || c == '-'

/-- Whether a text is a label of a domain. -/
def isLabel (t : Text) : Bool :=
  !t.isEmpty && t.length ≤ 63 && t.all isLabelPart && t.head? != some '-' && t.getLast? != some '-'

/-- The place behind the e-mail address that starts at a place and its closing angle bracket. -/
def email? (s : Source) (i : Nat) : Option Nat :=
  let mark := s.skip isLocalPart i
  let j := s.skip (fun c => isLabelPart c || c == '.') (mark + 1)
  if i < mark && s.isAt '@' mark && s.isAt '>' j
      && ((s.slice (mark + 1) j).pieces (· == '.')).all isLabel then some (j + 1)
  else none

end Furigana.Markdown.Autolink
