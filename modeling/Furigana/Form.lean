import Furigana.Alignment
import Furigana.Scan

/-!
# Explicit forms

A form says how an annotated word is written by hand.  It is itself written
`main:separator:gloss`, two glyphs on either side: under `[]:^:()` the word `記憶` with the gloss
`きおく` is written `[記憶]^(きおく)`.  Several forms are joined with `|`.

* `Form.ofText?` reads a form and `Form.toText` writes it;
* `Form.write` writes an occurrence, `Form.find` recognises one at the start of a text, with the
  longest word and for it the longest gloss;
* `Form.apply` converts the occurrences in a text.
-/

namespace Furigana

/-- The brackets around a word and around its gloss, and what stands between the two. -/
structure Form where
  main : Brackets
  separator : Text
  gloss : Brackets
deriving DecidableEq, Repr

namespace Form

/-- The form `[]:^:()`, which replaces malformed ones. -/
def standard : Form := ⟨⟨'[', ']'⟩, ['^'], ⟨'(', ')'⟩⟩

/-- Reads a form: three parts, the first and the last of exactly two characters. -/
def ofText? (t : Text) : Option Form :=
  match t.pieces (· == ':') with
  | [main, separator, gloss] =>
    match Brackets.ofText? main, Brackets.ofText? gloss with
    | some main, some gloss => some ⟨main, separator, gloss⟩
    | _, _ => none
  | _ => none

/-- The form as it is written. -/
def toText (f : Form) : Text := f.main.toText ++ ':' :: f.separator ++ ':' :: f.gloss.toText

/-- Reads a form, with the standard one in place of a malformed one. -/
def ofText (t : Text) : Form := (ofText? t).getD standard

/-- The forms that a list is written with. -/
def entries (list : Text) : List Text := list.pieces (· == '|')

/-- The memory that a matcher for the form takes, in bytes.  The automaton that reads occurrences
backwards is the largest that is made.  It has a state for every byte of a glyph or the separator, 33 for
each of the two runs of inner characters, three that look for a place to start, and a last one.  A state
takes 32 bytes; where the branching ones lead to takes another 128. -/
def matcherSize (f : Form) : Nat :=
  32 * (Text.byteLength (f.main.toText ++ f.separator ++ f.gloss.toText) + 2 * 33 + 3 + 1) + 128

/-- The most memory that a matcher may take, ten mebibytes. -/
def matcherLimit : Nat := 10485760

/-- Whether a matcher can be made for the form. -/
def compiles (f : Form) : Bool := f.matcherSize ≤ matcherLimit

/-- The forms of a written list, in order and without those too large for a matcher. -/
def compileList (list : Text) : List Form := (entries list).map ofText |>.filter compiles

/-! ## Occurrences -/

/-- A word with its gloss. -/
structure Occurrence where
  word : Text
  gloss : Text
deriving DecidableEq, Repr

/-- What stands between the word and the gloss of an occurrence. -/
def middle (f : Form) : Text := f.main.closing :: f.separator ++ [f.gloss.opening]

/-- An occurrence as it is written under the form. -/
def write (f : Form) (o : Occurrence) : Text :=
  f.main.opening :: o.word ++ f.middle ++ o.gloss ++ [f.gloss.closing]

/-- A gloss and its closing glyph at the start of the text. -/
def findGloss (f : Form) (t : Text) : Option Text :=
  (runThen isInner ([f.gloss.closing].isPrefixOf? ·) t).map (·.1)

/-- The occurrence at the start of the text, with its written form: the longest word for which there
is a gloss, and for that word the longest gloss. -/
def find (f : Form) : Text → Option (Occurrence × Text)
  | [] => none
  | c :: t =>
    if c = f.main.opening then
      (runThen isInner (fun t => (f.middle.isPrefixOf? t).bind f.findGloss) t).map
        fun (word, gloss) => (⟨word, gloss⟩, f.write ⟨word, gloss⟩)
    else none

/-- A text cut at the occurrences of the form. -/
def scan (f : Form) (t : Text) : List (Piece Occurrence) := Furigana.scan f.find none t

/-- What an occurrence becomes: the gloss distributed over the word, or one annotation. -/
def Occurrence.segments (aligned : Bool) (o : Occurrence) : List Segment :=
  if aligned then align o.word o.gloss else [.ruby o.word o.gloss]

/-- Converts every occurrence of the form that is not escaped. -/
def apply (f : Form) (aligned : Bool) (fallback : Brackets) (t : Text) : Text :=
  rewrite (fun o => fallback.markup (o.segments aligned)) (f.scan t)

end Form

end Furigana
