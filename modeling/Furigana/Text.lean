/-!
# Texts

Everything here works on a text as the list of its Unicode scalar values.  This file holds the few
operations on texts that belong to no particular part of the program:

* `Text.pieces` — a text cut at every character of a class;
* `Text.cutAt?` — a text cut at the first occurrence of another one;
* `Text.utf8` and `Text.byteLength` — the encoded form, the measure behind source positions.
-/

namespace Furigana

/-- A text is the list of its Unicode scalar values. -/
abbrev Text := List Char

namespace Text

/-- The pieces of a text between the characters of the class `p`.  There is one piece more than
there are such characters, so even the empty text has a piece. -/
def pieces (p : Char → Bool) (t : Text) : List Text :=
  t.foldr (fun c ps => if p c then [] :: ps else (c :: ps.headD []) :: ps.tail) [[]]

@[simp] theorem pieces_nil (p : Char → Bool) : pieces p [] = [[]] := rfl

theorem pieces_cons (p : Char → Bool) (c : Char) (t : Text) :
    pieces p (c :: t) =
      if p c then [] :: pieces p t else (c :: (pieces p t).headD []) :: (pieces p t).tail := rfl

theorem pieces_ne_nil (p : Char → Bool) (t : Text) : pieces p t ≠ [] := by
  cases t with
  | nil => simp
  | cons c t => rw [pieces_cons]; split <;> simp

/-- The text before and after the first occurrence of `needle`, if there is one. -/
def cutAt? (needle : Text) : Text → Option (Text × Text)
  | [] => (needle.isPrefixOf? []).map ([], ·)
  | c :: t =>
    match needle.isPrefixOf? (c :: t) with
    | some after => some ([], after)
    | none => (cutAt? needle t).map fun (before, after) => (c :: before, after)

/-- The bytes of the UTF-8 form. -/
def utf8 (t : Text) : List UInt8 := t.flatMap String.utf8EncodeChar

/-- The number of bytes of the UTF-8 form. -/
def byteLength (t : Text) : Nat := t.foldl (fun n c => n + c.utf8Size) 0

/-- The text that a byte sequence encodes, if it is valid UTF-8. -/
def ofUtf8? (bytes : ByteArray) : Option Text := (String.fromUTF8? bytes).map String.toList

/-- Whether a character is one of the 32 punctuation characters of ASCII. -/
def isAsciiPunctuation (c : Char) : Bool :=
  ('!' ≤ c && c ≤ '/') || (':' ≤ c && c ≤ '@') || ('[' ≤ c && c ≤ '\x60') || ('\x7b' ≤ c && c ≤ '~')

/-- Whether a character is an ASCII letter or digit. -/
def isAsciiAlphanumeric (c : Char) : Bool :=
  ('0' ≤ c && c ≤ '9') || ('A' ≤ c && c ≤ 'Z') || ('a' ≤ c && c ≤ 'z')

/-- Whether a character is an ASCII letter. -/
def isAsciiLetter (c : Char) : Bool := ('A' ≤ c && c ≤ 'Z') || ('a' ≤ c && c ≤ 'z')

/-- Whether a character is an ASCII digit. -/
def isAsciiDigit (c : Char) : Bool := '0' ≤ c && c ≤ '9'

/-- A number in decimal. -/
def decimal (n : Nat) : Text := Nat.toDigits 10 n

/-- A number in lower-case hexadecimal without leading zeros. -/
def hexadecimal (n : Nat) : Text := Nat.toDigits 16 n

/-- The value of a hexadecimal digit of either case. -/
def hexValue? (c : Char) : Option Nat :=
  if isAsciiDigit c then some (c.toNat - '0'.toNat)
  else if 'a' ≤ c && c ≤ 'f' then some (c.toNat - 'a'.toNat + 10)
  else if 'A' ≤ c && c ≤ 'F' then some (c.toNat - 'A'.toNat + 10)
  else none

/-- The number that a text of digits of the given base writes, reading every other character as
zero. -/
def number (base : Nat) (digits : Text) : Nat :=
  digits.foldl (fun n c => n * base + (hexValue? c).getD 0) 0

end Text

end Furigana
