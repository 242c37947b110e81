import Furigana.Engine
import Furigana.Markdown.Event
import Furigana.Text.Html

/-!
# Annotated documents

Converts the notation in the text of a document.  Neighbouring texts are converted together, because
markdown splits text at brackets; texts in code blocks and in the description of an image stay as they
are.  Markdown has already dropped the backslashes that escape punctuation, though to the notation they
still mean that something is not to be converted, so they are put back before a conversion and dropped
after it.

* `Depth` — how many code blocks and images are open;
* `withEscapes` — the text of a run with the dropped backslashes back;
* `annotateRun` — the event that replaces a run of texts;
* `annotate` — the events of a whole document.
-/

namespace Furigana.Markdown

/-! ## Escapes -/

/-- Drops every backslash that escapes a punctuation character. -/
def dropEscapes : Text → Text
  | [] => []
  | [c] => [c]
  | c :: d :: t =>
    if c = escapeChar ∧ Text.isAsciiPunctuation d then d :: dropEscapes t
    else c :: dropEscapes (d :: t)

/-- Whether the byte at a place of the source is that of an ASCII character of a class. -/
def byteIs (p : Char → Bool) (source : Array UInt8) (place : Nat) : Bool :=
  match source[place]? with
  | some b => b < 128 && p (Char.ofNat b.toNat)
  | none => false

/-- Whether the text at `start` follows a backslash that was dropped.  The text before it, if there is
any, ends in front of such a backslash; where it reaches up to `start` the backslash is its own. -/
def followsEscape (source : Array UInt8) (start : Nat) (before : Option Nat) : Bool :=
  before != some start && start != 0 && byteIs (· == escapeChar) source (start - 1)
    && byteIs Text.isAsciiPunctuation source start

/-- The content of a run of texts with the dropped backslashes back. -/
def withEscapes (source : Array UInt8) : Option Nat → List (Text × Span) → Text
  | _, [] => []
  | before, (content, span) :: rest =>
    (if followsEscape source span.start before then [escapeChar] else [])
      ++ content ++ withEscapes source (some span.stop) rest

/-! ## Runs of texts -/

/-- The texts at the start of a stream, and what follows them. -/
def spanTexts : List Sited → List (Text × Span) × List Sited
  | (.text content, span) :: rest =>
    let (texts, others) := spanTexts rest
    ((content, span) :: texts, others)
  | rest => ([], rest)

/-- Taking texts off a stream does not lengthen it. -/
theorem spanTexts_length_le : ∀ events : List Sited,
    (spanTexts events).2.length ≤ events.length
  | [] => by simp [spanTexts]
  | (event, span) :: rest => by
    have ih := spanTexts_length_le rest
    cases event <;> simp only [spanTexts, List.length_cons] <;> omega

/-- The event that replaces a run of texts: the text itself if nothing in it is converted, else its
markup. -/
def annotateRun (source : Array UInt8) (o : Options) (e : Engine) (run : List (Text × Span)) :
    Event × Engine :=
  let plain : Text := run.flatMap (·.1)
  let (html, e) := e.render o (Text.escapeHtml (withEscapes source none run))
  let shown : Text := dropEscapes html
  (if shown = plain.escapeHtml then .text plain else .inlineHtml shown, e)

/-! ## Documents -/

/-- The numbers of open code blocks and of open images. -/
structure Depth where
  code : Nat
  image : Nat
deriving DecidableEq, Repr

namespace Depth

/-- The depth before a document. -/
def zero : Depth := ⟨0, 0⟩

/-- The depth behind an event.  An end without a start changes nothing. -/
def after (d : Depth) : Event → Depth
  | .enter (.codeBlock _) => { d with code := d.code + 1 }
  | .leave .codeBlock => { d with code := d.code - 1 }
  | .enter (.image _ _) => { d with image := d.image + 1 }
  | .leave .image => { d with image := d.image - 1 }
  | _ => d

/-- Whether texts are converted at a depth. -/
def converts (d : Depth) : Bool := d.code == 0 && d.image == 0

end Depth

/-- The events of a document with its notation converted. -/
def annotateFrom (source : Array UInt8) (o : Options) (e : Engine) (d : Depth) :
    List Sited → List Event × Engine
  | [] => ([], e)
  | (.text content, span) :: rest =>
    if d.converts then
      let (event, e) := annotateRun source o e ((content, span) :: (spanTexts rest).1)
      let (events, e) := annotateFrom source o e d (spanTexts rest).2
      (event :: events, e)
    else
      let (events, e) := annotateFrom source o e d rest
      (.text content :: events, e)
  | (event, _) :: rest =>
    let (events, e) := annotateFrom source o e (d.after event) rest
    (event :: events, e)
termination_by events => events.length
decreasing_by
  · have := spanTexts_length_le rest
    simp only [List.length_cons]; omega
  · simp
  · simp

/-- The events of a document, parsed from `source`, with its notation converted. -/
def annotate (source : Text) (o : Options) (e : Engine) (events : List Sited) :
    List Event × Engine :=
  annotateFrom source.utf8.toArray o e .zero events

end Furigana.Markdown
