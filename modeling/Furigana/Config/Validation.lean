import Furigana.Options
import Furigana.Text.Quoted

/-!
# Validation of options

A conversion accepts any options and falls back to defaults; a configuration file is held to more, so
that typing errors show early.  `Options.invalid?` names the first part that a conversion would not
use as written: the fallback first, then the pairs, then the forms, each list from left to right.
-/

namespace Furigana

/-- A part of the options that is malformed. -/
inductive Invalid where
  | fallback (brackets : Text)
  | pair (entry : Text)
  | form (entry : Text)
deriving DecidableEq, Repr

/-- The sentence that reports a malformed part. -/
def Invalid.message : Invalid → Text
  | .fallback brackets =>
    "furigana.fallback_brackets must be exactly two characters, got ".toList ++ brackets.quoted
  | .pair entry =>
    "furigana.auto_bracket_sets entry must be exactly two characters, got ".toList ++ entry.quoted
  | .form entry =>
    "furigana.forms entry ".toList ++ entry.quoted
      ++ " must be `main:separator:gloss` with two-character brackets".toList

/-- The first malformed part of the options. -/
def Options.invalid? (o : Options) : Option Invalid :=
  if (Brackets.ofText? o.fallbackBrackets).isNone then some (.fallback o.fallbackBrackets)
  else
    match (Brackets.entries o.autoBracketSets).find? fun t => (Brackets.ofText? t).isNone with
    | some entry => some (.pair entry)
    | none =>
      ((Form.entries o.forms).find? fun t => (Form.ofText? t).isNone).map .form

end Furigana
