import Furigana.Options
import Furigana.Toml.Document

/-!
# Settings

Options some of which are left open, as a configuration file or a command line gives them.

* `Options.override` — options with some settings put in their place;
* `Settings.ofDocument?` — the settings of a configuration file.
-/

namespace Furigana

/-- Options some of which are left open. -/
structure Settings where
  enabled : Option Bool
  forms : Option Text
  fallbackBrackets : Option Text
  strictMode : Option Bool
  autoBracketSets : Option Text
  patternMatching : Option Bool
deriving DecidableEq, Repr

/-- The options with some settings put in their place.  Each setting goes to its own option. -/
def Options.override (o : Options) (s : Settings) : Options where
  enabled := s.enabled.getD o.enabled
  forms := s.forms.getD o.forms
  fallbackBrackets := s.fallbackBrackets.getD o.fallbackBrackets
  strictMode := s.strictMode.getD o.strictMode
  autoBracketSets := s.autoBracketSets.getD o.autoBracketSets
  patternMatching := s.patternMatching.getD o.patternMatching

namespace Settings

/-- All options left open. -/
def unset : Settings := ⟨none, none, none, none, none, none⟩

/-! ## Configuration files -/

/-- The keys of the options, in the order of the fields. -/
def keys : List Text :=
  ["enabled".toList, "forms".toList, "fallback_brackets".toList, "strict_mode".toList,
    "auto_bracket_sets".toList, "pattern_matching".toList]

/-- A truth value, unless it is left open. -/
def boolean? : Option Toml.Value → Option (Option Bool)
  | none => some none
  | some (.boolean b) => some (some b)
  | some _ => none

/-- A text, unless it is left open. -/
def text? : Option Toml.Value → Option (Option Text)
  | none => some none
  | some (.string t) => some (some t)
  | some _ => none

/-- The settings of a table.  Every option in it has to have its own type; other keys mean nothing. -/
def ofTable? (table : Toml.Table) : Option Settings :=
  match boolean? (table.lookup "enabled".toList), text? (table.lookup "forms".toList),
    text? (table.lookup "fallback_brackets".toList), boolean? (table.lookup "strict_mode".toList),
    text? (table.lookup "auto_bracket_sets".toList),
    boolean? (table.lookup "pattern_matching".toList) with
  | some enabled, some forms, some fallback, some strict, some sets, some matching =>
    some ⟨enabled, forms, fallback, strict, sets, matching⟩
  | _, _, _, _, _, _ => none

/-- The settings that a value gives: a table by the keys, an array by the order of the options.  A time
is taken for a table without any of the keys. -/
def ofValue? : Toml.Value → Option Settings
  | .table _ entries => ofTable? entries
  | .array elements => ofTable? (keys.zip elements)
  | .time => some unset
  | _ => none

/-- The settings of a configuration file: those of its table `furigana`. -/
def ofDocument? (document : Toml.Table) : Option Settings :=
  match document.lookup "furigana".toList with
  | some value => ofValue? value
  | none => some unset

end Settings

end Furigana
