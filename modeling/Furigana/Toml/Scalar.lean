import Furigana.Toml.Value

/-!
# TOML scalars

Which words are numbers, truth values, dates and times.  A number has to fit: an integer into 128 bits,
with or without a sign, and a fraction into a double.
-/

namespace Furigana.Toml

/-! ## Digits -/

/-- Whether a text consists of digits of a kind, with single underscores between them. -/
def areDigits (isDigit : Char → Bool) (t : Text) : Bool :=
  (t.pieces (· == '_')).all fun group => !group.isEmpty && group.all isDigit

/-- A text without its underscores. -/
def plainDigits (t : Text) : Text := t.filter (· != '_')

/-- A text without a sign in front, and whether that was a minus. -/
def unsigned : Text → Bool × Text
  | '-' :: t => (true, t)
  | '+' :: t => (false, t)
  | t => (false, t)

/-- Whether a text is a decimal number without a sign and without leading zeros. -/
def isDecimal (t : Text) : Bool :=
  areDigits Text.isAsciiDigit t && (t.head? != some '0' || t.length == 1)

/-! ## Integers -/

/-- Whether a magnitude with a sign fits. -/
def integerFits (negative : Bool) (n : Nat) : Bool :=
  if negative then n ≤ Nat.pow 2 127 else n < Nat.pow 2 128

/-- Whether a word is an integer. -/
def isInteger (t : Text) : Bool :=
  let based (base : Nat) (isDigit : Char → Bool) (digits : Text) : Bool :=
    areDigits isDigit digits && integerFits false (Text.number base (plainDigits digits))
  match t with
  | '0' :: 'x' :: digits => based 16 (fun c => (Text.hexValue? c).isSome) digits
  | '0' :: 'o' :: digits => based 8 (fun c => '0' ≤ c && c ≤ '7') digits
  | '0' :: 'b' :: digits => based 2 (fun c => c == '0' || c == '1') digits
  | _ =>
    let (negative, digits) := unsigned t
    isDecimal digits && integerFits negative (Text.number 10 (plainDigits digits))

/-! ## Fractions -/

/-- The least magnitude that rounds to infinity. -/
def overflow : Nat := Nat.pow 2 1024 - Nat.pow 2 970

/-- Whether the number `digits · 10 ^ exponent` is less than the least one that rounds to infinity. -/
def fractionFits (digits : Text) (exponent : Int) : Bool :=
  let significant := digits.dropWhile (· == '0')
  let magnitude := significant.length + exponent
  significant.isEmpty || magnitude < 300
    || (magnitude < 320
      && Text.number 10 significant * Nat.pow 10 exponent.toNat < overflow * Nat.pow 10 (-exponent).toNat)

/-- A text up to a character of a class, and from it on. -/
def cutBefore (p : Char → Bool) (t : Text) : Text × Text :=
  let start := t.takeWhile fun c => !p c
  (start, t.drop start.length)

/-- Whether a word is a number with a fraction or an exponent, or one of the names of what is none. -/
def isFraction (t : Text) : Bool :=
  let (_, t) := unsigned t
  if t = "inf".toList ∨ t = "nan".toList then true
  else
    let (mantissa, exponent) := cutBefore (fun c => c == 'e' || c == 'E') t
    let (whole, fraction) := cutBefore (· == '.') mantissa
    let (negative, power) := unsigned exponent.tail
    let fractionDigits := plainDigits fraction.tail
    let shift : Int := Text.number 10 (plainDigits power)
    isDecimal whole && (!fraction.isEmpty || !exponent.isEmpty)
      && (fraction.isEmpty || areDigits Text.isAsciiDigit fraction.tail)
      && (exponent.isEmpty || areDigits Text.isAsciiDigit power)
      && fractionFits (plainDigits whole ++ fractionDigits)
          ((if negative then -shift else shift) - fractionDigits.length)

/-! ## Dates and times -/

/-- The value of a text of so many digits. -/
def digitsOf? (length : Nat) (t : Text) : Option Nat :=
  if t.length = length && t.all Text.isAsciiDigit then some (Text.number 10 t) else none

/-- The number of days of a month. -/
def daysOf (year month : Nat) : Nat :=
  if month = 2 then
    if year % 4 = 0 ∧ (year % 100 ≠ 0 ∨ year % 400 = 0) then 29 else 28
  else if month = 4 ∨ month = 6 ∨ month = 9 ∨ month = 11 then 30
  else 31

/-- Whether a word is a date. -/
def isDate (t : Text) : Bool :=
  match (t.pieces (· == '-')) with
  | [year, month, day] =>
    match digitsOf? 4 year, digitsOf? 2 month, digitsOf? 2 day with
    | some y, some m, some d => 1 ≤ m && m ≤ 12 && 1 ≤ d && d ≤ daysOf y m
    | _, _, _ => false
  | _ => false

/-- Whether a word is so many hours and minutes. -/
def isHourMinute (hour minute : Text) : Bool :=
  match digitsOf? 2 hour, digitsOf? 2 minute with
  | some h, some m => h ≤ 23 && m ≤ 59
  | _, _ => false

/-- Whether a word is a number of seconds, with decimals or without. -/
def isSecond (t : Text) : Bool :=
  let (whole, fraction) := cutBefore (· == '.') t
  ((digitsOf? 2 whole).map fun s => decide (s ≤ 60)).getD false
    && (fraction.isEmpty || (2 ≤ fraction.length && fraction.tail.all Text.isAsciiDigit))

/-- Whether a word is a time of the day; the seconds may be left out. -/
def isTime (t : Text) : Bool :=
  match (t.pieces (· == ':')) with
  | [hour, minute] => isHourMinute hour minute
  | [hour, minute, second] => isHourMinute hour minute && isSecond second
  | _ => false

/-- Whether a word is a distance from universal time. -/
def isOffset (t : Text) : Bool :=
  match t with
  | ['z'] | ['Z'] => true
  | '+' :: rest | '-' :: rest =>
    match (Text.pieces (· == ':') rest) with
    | [hour, minute] => isHourMinute hour minute
    | _ => false
  | _ => false

/-- Whether a word is a date, a time, or a date with a time and perhaps an offset. -/
def isDateTime (t : Text) : Bool :=
  let (date, rest) := cutBefore (fun c => c == 'T' || c == 't' || c == ' ') t
  match rest with
  | [] => isDate t || isTime t
  | _ :: rest =>
    let (time, offset) := cutBefore (fun c => c == 'z' || c == 'Z' || c == '+' || c == '-') rest
    isDate date && isTime time && (offset.isEmpty || isOffset offset)

/-! ## Words -/

/-- The value that a word writes. -/
def ofWord? (t : Text) : Option Value :=
  if t = "true".toList then some (.boolean true)
  else if t = "false".toList then some (.boolean false)
  else if isInteger t || isFraction t then some .number
  else if isDateTime t then some .time
  else none

/-- Whether a character ends a word. -/
def endsWord (c : Char) : Bool :=
  c == ' ' || c == '\t' || c == '\n' || c == '\r' || c == ',' || c == ']' || c == '\x7d' || c == '#'

/-- The value that the word at the start of the text writes.  A space may stand between a date and a
time. -/
def word? (t : Text) : Option (Value × Text) :=
  let (first, rest) := cutBefore endsWord t
  match rest with
  | ' ' :: d :: more =>
    if isDate first && Text.isAsciiDigit d then
      let (second, rest) := cutBefore endsWord (d :: more)
      (ofWord? (first ++ ' ' :: second)).map (·, rest)
    else (ofWord? first).map (·, rest)
  | _ => (ofWord? first).map (·, rest)

end Furigana.Toml
