import Furigana.Markdown.Event
import Furigana.Text.Punctuation

/-!
# Emphasis

Runs of `*`, `_` and `~` open and close emphasis, depending on what stands beside them.  A run that may
close is paired with the nearest run before it that may open and fits; whatever is left unpaired is text.

* `Flanks` — what a run may do;
* `OpenRuns` — runs that wait for their counterpart, with the events behind each;
* `OpenRuns.close` — pairs a closing run.
-/

namespace Furigana.Markdown

/-! ## Flanks -/

/-- Whether a run may open and whether it may close emphasis. -/
structure Flanks where
  opens : Bool
  closes : Bool
deriving DecidableEq, Repr

/-- What stands beside a run of marks. -/
structure Neighbours where
  before : Option Char
  after : Option Char
  /-- Whether the run stands in a row of a table, where pipes end cells. -/
  inRow : Bool
  /-- Whether a pipe that ends a cell stands before the run. -/
  behindPipe : Bool

namespace Neighbours

/-- Whether a run may open: nothing blank follows, and either it may stand inside a word or a blank or a
punctuation character stands before it.  Runs of asterisks and pairs of tildes may stand inside words. -/
def opens (n : Neighbours) (mark : Char) (length : Nat) : Bool :=
  match n.after, n.before with
  | none, _ => false
  | some a, none => !Text.isBlank a
  | some a, some b =>
    if Text.isBlank a then false
    else if n.inRow && n.behindPipe then true
    else if n.inRow && a == '|' then false
    else
      (mark == '*' && !Text.isPunctuation a) || (mark == '~' && 1 < length)
        || (mark == '~' && b == '~' && !Text.isPunctuation a)
        || Text.isBlank b || Text.isPunctuation b

/-- Whether a run may close: nothing blank stands before it, and either it may stand inside a word or a
blank or a punctuation character follows. -/
def closes (n : Neighbours) (mark : Char) (length : Nat) : Bool :=
  match n.before, n.after with
  | none, _ => false
  | some b, none => !Text.isBlank b
  | some b, some a =>
    if Text.isBlank b then false
    else if n.inRow && n.behindPipe then false
    else if n.inRow && a == '|' then true
    else
      ((mark == '*' || (mark == '~' && 1 < length)) && !Text.isPunctuation b)
        || (mark == '~' && b == '~') || Text.isBlank a || Text.isPunctuation a

/-- What a run of marks may do. -/
def flanks (n : Neighbours) (mark : Char) (length : Nat) : Flanks :=
  ⟨n.opens mark length, n.closes mark length⟩

end Neighbours

/-! ## Runs -/

/-- A run of emphasis marks, each of them as a text. -/
structure MarkRun where
  mark : Char
  flanks : Flanks
  marks : List Sited

/-- The number of marks in a run. -/
def MarkRun.length (r : MarkRun) : Nat := r.marks.length

/-- A run that waits for its counterpart: the marks of it that are left, and the events behind it, latest
first. -/
structure OpenRun where
  run : MarkRun
  left : List Sited
  events : List Sited

/-- The events, latest first, with the marks of an unpaired run as text in front of them. -/
def OpenRun.dissolve (o : OpenRun) : List Sited := o.events ++ o.left.reverse

/-- Whether a closing run fits an opening one.  Runs of tildes have to be equal; of two runs of which
one may do both, the lengths must not add up to a multiple of three unless both are one. -/
def OpenRun.fits (o : OpenRun) (closer : MarkRun) : Bool :=
  o.run.mark == closer.mark && (closer.mark != '~' || o.run.length == closer.length)
    && ((!closer.flanks.opens && !o.run.flanks.closes)
      || (closer.length + o.run.length) % 3 != 0 || closer.length % 3 == 0)

/-- The events in an element. -/
def inside (tag : Tag) (events : List Sited) : List Sited :=
  (.enter tag, ⟨0, 0⟩) :: events ++ [(.leave tag.toEnd, ⟨0, 0⟩)]

/-- The events of an element, latest first. -/
def insideReversed (tag : Tag) (events : List Sited) : List Sited :=
  (.leave tag.toEnd, ⟨0, 0⟩) :: events ++ [(.enter tag, ⟨0, 0⟩)]

/-- The events, latest first, emphasised by a number of marks on either side, pairs of them innermost. -/
def emphasise (mark : Char) : Nat → List Sited → List Sited
  | 0, events => events
  | 1, events => insideReversed (if mark = '~' then .strikethrough else .emphasis) events
  | n + 2, events =>
    emphasise mark n (insideReversed (if mark = '~' then .strikethrough else .strong) events)

/-- The open runs, innermost first, and the events in front of them, latest first.  The outermost
`settled` runs have nothing that a run of tildes closes, because one before it found nothing there. -/
structure OpenRuns where
  runs : List OpenRun
  events : List Sited
  settled : Nat

namespace OpenRuns

/-- No open runs. -/
def empty : OpenRuns := ⟨[], [], 0⟩

/-- Adds events, latest first, behind the innermost run. -/
def append (s : OpenRuns) (events : List Sited) : OpenRuns :=
  match s.runs with
  | [] => { s with events := events ++ s.events }
  | o :: rest => { s with runs := { o with events := events ++ o.events } :: rest }

/-- The innermost run that a closing one fits, of those that `most` counts, with the events behind it,
the runs in between dissolved, and with the runs around it. -/
def findOpener (closer : MarkRun) (most : Nat) (runs : List OpenRun) :
    Option (OpenRun × List Sited × List OpenRun) :=
  let between := (runs.take most).takeWhile fun o => !o.fits closer
  if between.length < min most runs.length then
    match runs.drop between.length with
    | o :: around => some (o, between.flatMap (·.dissolve) ++ o.events, around)
    | [] => none
  else none

/-- The number of runs that a closing one looks at. -/
def reach (s : OpenRuns) (closer : MarkRun) : Nat :=
  if closer.mark = '~' then s.runs.length - s.settled else s.runs.length

/-- Notes that a closing run found no counterpart. -/
def settle (s : OpenRuns) (closer : MarkRun) : OpenRuns :=
  if closer.mark = '~' then { s with settled := s.runs.length } else s

/-- Pairs a closing run as often as its marks allow, at most `fuel` times, and gives the marks left. -/
def close (closer : MarkRun) : (fuel : Nat) → List Sited → OpenRuns → List Sited × OpenRuns
  | 0, left, s => (left, s)
  | fuel + 1, left, s =>
    if left.isEmpty then ([], s)
    else
      match findOpener closer (s.reach closer) s.runs with
      | none => (left, s.settle closer)
      | some (o, events, around) =>
        let paired := min left.length o.left.length
        let emphasised := emphasise closer.mark paired events
        let s : OpenRuns := ⟨around, s.events, min s.settled around.length⟩
        let s :=
          if o.left.length = paired then s.append emphasised
          else
            let o := { o with left := o.left.take (o.left.length - paired), events := emphasised }
            { s with runs := o :: around }
        close closer fuel (left.drop paired) s

/-- Takes in a run: pairs what it closes, and keeps what is left of it as open or as text. -/
def push (s : OpenRuns) (r : MarkRun) : OpenRuns :=
  let (left, s) := if r.flanks.closes then close r r.length r.marks s else (r.marks, s)
  if left.isEmpty then s
  else if r.flanks.opens then { s with runs := ⟨r, left, []⟩ :: s.runs }
  else s.append left.reverse

/-- All events in order, with the unpaired runs as text. -/
def finish (s : OpenRuns) : List Sited :=
  (s.runs.flatMap (·.dissolve) ++ s.events).reverse

end OpenRuns

end Furigana.Markdown
