import Furigana.Detection
import Furigana.Form

/-!
# Options

What a conversion is told.  No value is ever refused: a malformed form, pair or fallback is read as
its default.  `Furigana.Config` holds the stricter view that a configuration file is checked against.
-/

namespace Furigana

/-- The options of a conversion. -/
structure Options where
  /-- Whether anything is converted at all; escapes are resolved in any case. -/
  enabled : Bool
  /-- Explicit forms, joined by `|`. -/
  forms : Text
  /-- The pair that encloses a gloss where ruby is not supported. -/
  fallbackBrackets : Text
  /-- Whether only explicit forms are converted. -/
  strictMode : Bool
  /-- The pairs whose glosses are detected, joined by `|`. -/
  autoBracketSets : Text
  /-- Whether a gloss is distributed over its word. -/
  patternMatching : Bool
deriving DecidableEq, Repr

namespace Options

/-- The forms in use unless others are given. -/
def defaultForms : Text := "[]:^:()|[]::\x7b\x7d".toList

/-- The fallback brackets in use unless others are given. -/
def defaultFallbackBrackets : Text := "【】".toList

/-- The detected pairs in use unless others are given. -/
def defaultAutoBracketSets : Text := "【】|\x7b\x7d".toList

/-- The options in use unless others are given. -/
def standard : Options where
  enabled := true
  forms := defaultForms
  fallbackBrackets := defaultFallbackBrackets
  strictMode := false
  autoBracketSets := defaultAutoBracketSets
  patternMatching := true

/-- The fallback brackets that the options ask for. -/
def fallback (o : Options) : Brackets := .ofText o.fallbackBrackets

end Options

end Furigana
