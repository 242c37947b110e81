import Furigana.Options

/-!
# Notices

What a conversion reports about itself.  A notice is a cause with the texts concerned; its level, its
message and its named fields are read off the cause.

Notices are meant for a log.  `Engine.notices` yields those of a call to whoever keeps one; the program
of `Furigana.Main` keeps none.
-/

namespace Furigana

/-- How much a notice matters. -/
inductive Level where
  | trace
  | debug
  | warn
deriving DecidableEq, Repr

/-- The name of a level. -/
def Level.name : Level → String
  | .trace => "trace"
  | .debug => "debug"
  | .warn => "warn"

/-- Something worth reporting. -/
inductive Notice where
  /-- A fallback that is not a pair was replaced. -/
  | fallbackReplaced (brackets : Text)
  /-- A form that cannot be read was replaced. -/
  | formReplaced (form : Text)
  /-- A form was left out because its matcher would be too large. -/
  | formTooLarge
  /-- A pair that is not a pair was replaced. -/
  | pairReplaced (pair : Text)
  /-- A list of forms was compiled. -/
  | formsCompiled (forms : Text) (count : Nat)
  /-- A list of pairs was compiled. -/
  | pairsCompiled (sets : Text) (count : Nat)
  /-- A full cache was emptied. -/
  | cacheFlushed (limit : Nat)
  /-- A gloss outlasted the runs of its word. -/
  | glossLeftOver (word gloss : Text)
  /-- A gloss held more readings than its base has characters. -/
  | readingsExceedBase (base reading : Text)
deriving DecidableEq, Repr

/-- The value of a field. -/
inductive Notice.Field where
  | text (t : Text)
  | count (n : Nat)
deriving DecidableEq, Repr

namespace Notice

/-- How much a notice matters. -/
def level : Notice → Level
  | fallbackReplaced _ | glossLeftOver _ _ | readingsExceedBase _ _ => .trace
  | formReplaced _ | pairReplaced _ | formsCompiled _ _ | pairsCompiled _ _ | cacheFlushed _ => .debug
  | formTooLarge => .warn

/-- The sentence that reports a notice. -/
def message : Notice → String
  | fallbackReplaced _ => "Invalid fallback brackets"
  | formReplaced _ => "Malformed furigana form"
  | formTooLarge => "Failed to compile furigana form"
  | pairReplaced _ => "Malformed auto bracket pair"
  | formsCompiled _ _ => "Compiled furigana forms"
  | pairsCompiled _ _ => "Compiled auto bracket sets"
  | cacheFlushed _ => "Matcher cache full, clearing"
  | glossLeftOver _ _ => "Gloss not consumed by runs, annotating whole word"
  | readingsExceedBase _ _ => "More readings than characters"

/-- Why a form was left out. -/
def sizeError : Text :=
  "Compiled regex exceeds size limit of ".toList ++ Text.decimal Form.matcherLimit
    ++ " bytes.".toList

/-- The named values of a notice. -/
def fields : Notice → List (String × Field)
  | fallbackReplaced brackets =>
    [("brackets", .text brackets), ("fallback", .text Options.defaultFallbackBrackets)]
  | formReplaced form => [("form", .text form), ("fallback", .text Form.standard.toText)]
  | formTooLarge => [("error", .text sizeError)]
  | pairReplaced pair => [("pair", .text pair)]
  | formsCompiled forms count => [("forms", .text forms), ("count", .count count)]
  | pairsCompiled sets count => [("sets", .text sets), ("count", .count count)]
  | cacheFlushed limit => [("limit", .count limit)]
  | glossLeftOver word gloss => [("word", .text word), ("gloss", .text gloss)]
  | readingsExceedBase base reading => [("base", .text base), ("reading", .text reading)]

/-! ## What each step reports -/

/-- What reading the fallback brackets reports. -/
def ofFallback (brackets : Text) : List Notice :=
  if (Brackets.ofText? brackets).isSome then [] else [fallbackReplaced brackets]

/-- What reading a form reports. -/
def ofForm (form : Text) : List Notice :=
  if (Form.ofText? form).isSome then [] else [formReplaced form]

/-- What making a matcher for a form that was read reports. -/
def ofMatcher (form : Form) : List Notice := if form.compiles then [] else [formTooLarge]

/-- What compiling a list of forms reports, entry by entry. -/
def ofForms (list : Text) : List Notice :=
  (Form.entries list).flatMap (fun t => ofForm t ++ ofMatcher (.ofText t))
    ++ [formsCompiled list (Form.compileList list).length]

/-- What compiling a list of pairs reports, entry by entry. -/
def ofPairs (list : Text) : List Notice :=
  (Brackets.entries list).flatMap
      (fun t => if (Brackets.ofText? t).isSome then [] else [pairReplaced t])
    ++ [pairsCompiled list (Brackets.compileList list).length]

/-- What aligning a word reports. -/
def ofAlignment (word gloss : Text) : List Notice :=
  if isAnchored word && (alignRuns? (some gloss) (runs word)).isNone then [glossLeftOver word gloss]
  else []

/-- What distributing a gloss reports. -/
def ofDistribution (base gloss : Text) : List Notice :=
  if gloss.any isSeparator && !hasReadings base gloss then [readingsExceedBase base gloss] else []

/-- What converting the occurrences of a form reports. -/
def ofFormPass (aligned : Bool) (f : Form) (t : Text) : List Notice :=
  if aligned then (unguarded (f.scan t)).flatMap fun o => ofAlignment o.word o.gloss else []

/-- What converting detected words reports. -/
def ofPairPass (aligned : Bool) (b : Brackets) (t : Text) : List Notice :=
  if aligned then
    (unguarded (b.scan t)).flatMap fun d => ofDistribution d.base (stripSuffix d.gloss d.suffix)
  else []

end Notice

end Furigana
