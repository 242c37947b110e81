import Furigana.Markdown.Inline.Autolink
import Furigana.Markdown.Inline.Token
import Furigana.Markdown.Reference

/-!
# Inline content

Settles what the tokens of a block mean, from left to right: code, raw HTML, automatic links, links and
images.  Brackets wait as openers until their counterpart decides whether they make a link; emphasis is
resolved at last, in each link on its own.

* `Content` — the tokens of a block and what is needed to read them;
* `Reader` — content that has been read up to a token;
* `Content.events` — the events of a content.
-/

namespace Furigana.Markdown

/-- The inline content of a block: its tokens, the containers of its lines, the place behind it, and
whether it is a cell. -/
structure Content where
  tokens : List Token
  containers : List Container
  stop : Nat
  inTable : Bool

/-! ## What has been read -/

/-- Something read. -/
inductive Item where
  /-- Events, latest first. -/
  | events (latest : List Sited)
  | marks (run : MarkRun)
  /-- A line break that a backslash makes, with the text it is otherwise. -/
  | hardBreak (text : Sited)

namespace Item

/-- Takes an item into the runs that are open. -/
def addTo (runs : OpenRuns) : Item → OpenRuns
  | .events latest => runs.append latest
  | .marks run => runs.push run
  | .hardBreak text => runs.append [(.hardBreak, text.2)]

/-- The events of items, given latest first, with emphasis resolved.  Where marks had to be settled, a
backslash that ends the last line is text. -/
def resolve (marked : Bool) (items : List Item) : List Sited :=
  let closed : List Item := match items with
    | .hardBreak text :: rest => if marked then .events [text] :: rest else items
    | _ => items
  (closed.reverse.foldl addTo .empty).finish

/-- Whether an item is a run of emphasis marks. -/
def isMarks : Item → Bool
  | .marks _ => true
  | .events _ | .hardBreak _ => false

end Item

/-- An opening bracket, with the items behind it, latest first.  Links do not nest, so a bracket in front
of a link is not active. -/
structure Opener where
  token : Token
  image : Bool
  active : Bool
  items : List Item

/-- The items, latest first, with the bracket as text in front of them. -/
def Opener.dissolve (o : Opener) (s : Source) : List Item :=
  o.items ++ [.events [s.textEvent o.token.start o.token.stop]]

/-- Content that has been read. -/
structure Reader where
  /-- The items outside of brackets, latest first. -/
  items : List Item
  /-- The open brackets, innermost first. -/
  openers : List Opener
  /-- The place of the closing bracket of a label that is known to have no definition. -/
  barred : Option Nat
  /-- The bytes that links may still copy from definitions. -/
  allowance : Nat

namespace Reader

/-- A reader that has read nothing. -/
def empty (allowance : Nat) : Reader := ⟨[], [], none, allowance⟩

/-- Adds items, latest first. -/
def addAll (r : Reader) (items : List Item) : Reader :=
  match r.openers with
  | [] => { r with items := items ++ r.items }
  | o :: rest => { r with openers := { o with items := items ++ o.items } :: rest }

/-- Adds an item. -/
def add (r : Reader) (item : Item) : Reader := r.addAll [item]

/-- Adds an event. -/
def event (r : Reader) (e : Sited) : Reader := r.add (.events [e])

/-- All items, latest first, with the open brackets as text. -/
def finish (r : Reader) (s : Source) : List Item :=
  r.openers.flatMap (·.dissolve s) ++ r.items

end Reader

/-! ## Code -/

/-- The text of a code span from `i` up to `j`: line endings are spaces, and what containers ask of a line
is left out.  In a table a backslash escapes a pipe. -/
def codeText (s : Source) (c : Content) (read : Text) (i j : Nat) : Text :=
  if i < j then
    if s.has isLineEnd i then
      codeText s c (' ' :: read) (max (i + 1) (Container.skipMargin (s.upTo j) c.containers (i + 1))) j
    else if c.inTable && s.startsWith ['\\', '|'] i && i + 1 < j then
      codeText s c ('|' :: read) (i + 2) j
    else codeText s c ((s.char? i).toList ++ read) (i + 1) j
  else read.reverse
termination_by j - i
decreasing_by all_goals omega

/-- The content of a code span: a space at either end is dropped unless there is nothing else. -/
def trimCode (t : Text) : Text :=
  if t.head? == some ' ' && t.getLast? == some ' ' && !t.all (· == ' ') then t.tail.dropLast else t

namespace Token

/-- Whether a token is a run of backticks of a given length. -/
def isTicks (n : Nat) (t : Token) : Bool :=
  match t.kind with
  | .ticks length _ => length == n
  | _ => false

/-- The tokens that are left behind a place, the first one from there on. -/
def dropTo (i : Nat) (tokens : List Token) : List Token :=
  match tokens.dropWhile (·.stop ≤ i) with
  | [] => []
  | t :: rest => { t with start := max t.start i } :: rest

/-- Dropping tokens leaves no more of them. -/
theorem length_dropTo_le (i : Nat) (tokens : List Token) : (dropTo i tokens).length ≤ tokens.length := by
  have h := (List.dropWhile_suffix (fun t : Token => decide (t.stop ≤ i)) (l := tokens)).length_le
  unfold dropTo
  split <;> simp_all

end Token

namespace Content

/-- The place where a link goes on behind a line ending. -/
def nextLine (s : Source) (c : Content) (i : Nat) : Option Nat :=
  some (Container.skipMargin s c.containers i)

/-! ## Links -/

/-- White space inside the parentheses of a link, with at most one line ending. -/
def skipSeparator (s : Source) (c : Content) (i : Nat) : Nat :=
  let j := s.skip isInlineSpace i
  match s.lineEnd? j with
  | some next => s.skip isInlineSpace (Container.skipMargin s c.containers next)
  | none => j

/-- The place where the title of a link goes on behind the line ending at a place: the first token
behind it. -/
def titleLine? (rest : List Token) (i : Nat) : Option Nat :=
  match rest.dropWhile (·.stop ≤ i + 1) with
  | t :: _ => if i < t.start then some t.start else none
  | [] => none

/-- The destination and the title in the parentheses at a place, directly behind a link's text, and the
place behind them. -/
def inlineTarget? (s : Source) (c : Content) (rest : List Token) (i : Nat) : Option (Reference × Nat) :=
  if s.isAt '(' i then
    (Reference.destination? s (skipSeparator s c (i + 1))).bind fun (target, j) =>
      let j := skipSeparator s c j
      let (title, j) := match Reference.title? s c.inTable (titleLine? rest) j with
        | some (title, k) => (title, skipSeparator s c k)
        | none => ([], j)
      if s.isAt ')' j then some (⟨Entity.resolve c.inTable target, title⟩, j + 1) else none
  else none

/-- What a closing bracket comes to. -/
structure Closing where
  /-- The link it makes, if it makes one. -/
  link : Option Reference
  /-- The tokens that are left behind. -/
  rest : List Token
  /-- The bytes that the link copies from its definition. -/
  cost : Nat
  /-- The place of a closing bracket that ends a label without definition. -/
  barred : Option Nat

/-- The label that the text of a link is by itself. -/
def ownLabel? (s : Source) (c : Content) (o : Opener) (close : Token) : Option Text :=
  let own := s.upTo close.stop
  match Reference.label? own (nextLine own c) (o.token.stop - 1) with
  | some (label, j) => if j = close.stop then some label else none
  | none => none

/-- The link to the definition of a label, behind which `left` is left.  Once the allowance is used up there
is none. -/
def refer (references : References) (r : Reader) (label : Option Text) (left rest : List Token)
    (barred : Option Nat) : Closing :=
  match if r.allowance = 0 then none else label.bind (Reference.find? references) with
  | some reference => ⟨some reference, left, reference.cost, barred⟩
  | none => ⟨none, rest, 0, barred⟩

/-- A reference leaves no more tokens than there were. -/
theorem length_refer_le (references : References) (r : Reader) (label : Option Text)
    (left rest : List Token) (barred : Option Nat) (h : left.length ≤ rest.length) :
    (refer references r label left rest barred).rest.length ≤ rest.length := by
  unfold refer
  split <;> simp [h]

/-- The link that a closing bracket makes of the content behind an opening one: by parentheses, by the
label behind it, or by its own text as label. -/
def closing (s : Source) (c : Content) (references : References) (r : Reader) (o : Opener)
    (close : Token) (rest : List Token) : Closing :=
  match inlineTarget? s c rest close.stop with
  | some (reference, j) => ⟨some reference, Token.dropTo j rest, 0, r.barred⟩
  | none =>
    let own := if r.barred = some close.start then none else ownLabel? s c o close
    match rest with
    | [] => refer references r own [] [] r.barred
    | t :: behind =>
      if s.startsWith ['[', ']'] t.start then
        refer references r own (behind.drop 1) (t :: behind) r.barred
      else
        match Reference.label? s (nextLine s c) t.start with
        | none => refer references r own (t :: behind) (t :: behind) r.barred
        | some (label, j) =>
          match (t :: behind).dropWhile (·.stop < j) with
          | [] => ⟨none, t :: behind, 0, r.barred⟩
          | last :: left => refer references r (some label) left (t :: behind) (some last.start)

/-- A closing bracket leaves no more tokens than there were. -/
theorem length_closing_le (s : Source) (c : Content) (references : References) (r : Reader)
    (o : Opener) (close : Token) (rest : List Token) :
    (closing s c references r o close rest).rest.length ≤ rest.length := by
  have h (p : Token → Bool) (ts : List Token) := (List.dropWhile_suffix p (l := ts)).length_le
  unfold closing
  grind [Token.length_dropTo_le, length_refer_le]

/-! ## Reading -/

/-- Reads an opening angle bracket: an automatic link, raw HTML or text. -/
def angle (s : Source) (c : Content) (t : Token) (rest : List Token) : List Sited × List Token :=
  let i := t.stop
  let link (email : Bool) (j : Nat) : List Sited × List Token :=
    (insideReversed (.link email (s.slice i (j - 1)) []) [s.textEvent i (j - 1)], Token.dropTo j rest)
  let html (content : Text) (j : Nat) : List Sited × List Token :=
    ([(.inlineHtml content, ⟨s.offset t.start, s.offset j⟩)], Token.dropTo j rest)
  match Autolink.address? s i, Autolink.email? s i with
  | some j, _ => link false j
  | none, some j => link true j
  | none, none =>
    match HtmlTag.instruction? s i, HtmlTag.tag? s (c.nextLine s) i with
    | some j, _ => html (s.slice t.start j) j
    | none, some j => html (Container.withoutMargins s c.containers (j - i) t.start j) j
    | none, none => ([s.textEvent t.start t.stop], rest)

/-- What is left behind an opening angle bracket is not more than was there. -/
theorem length_angle_le (s : Source) (c : Content) (t : Token) (rest : List Token) :
    (angle s c t rest).2.length ≤ rest.length := by
  unfold angle
  grind [Token.length_dropTo_le]

/-- Reads a run of backticks: code up to the next run of the same length, or text.  An escaped backtick is
text in front of the code. -/
def ticks (s : Source) (c : Content) (t : Token) (length : Nat) (escaped : Bool) (rest : List Token) :
    List Sited × List Token :=
  let n := if escaped then length - 1 else length
  match if n = 0 then [] else rest.dropWhile fun u => !u.isTicks n with
  | [] => ([s.textEvent t.start t.stop], rest)
  | u :: left =>
    let code : Sited :=
      (.code (trimCode (codeText s c [] t.stop u.start)), ⟨s.offset t.start, s.offset u.stop⟩)
    (if escaped then [code, s.textEvent t.start (t.start + 1)] else [code], left)

/-- What is left behind a run of backticks is not more than was there. -/
theorem length_ticks_le (s : Source) (c : Content) (t : Token) (length : Nat) (escaped : Bool)
    (rest : List Token) : (ticks s c t length escaped rest).2.length ≤ rest.length := by
  have h (p : Token → Bool) := (List.dropWhile_suffix p (l := rest)).length_le
  unfold ticks
  grind

/-- The marks of a run as texts. -/
def markTexts (s : Source) (t : Token) (length : Nat) : List Sited :=
  (List.range length).map fun k =>
    s.textEvent (t.start + k) (if k + 1 = length then t.stop else t.start + k + 1)

/-- Reads a closing bracket. -/
def closeBracket (s : Source) (c : Content) (references : References) (r : Reader) (t : Token)
    (rest : List Token) : Reader × List Token :=
  let text : Item := .events [s.textEvent t.start t.stop]
  match r.openers with
  | [] => (r.add text, rest)
  | o :: around =>
    let outer := { r with openers := around }
    if !o.active then (outer.addAll (text :: o.dissolve s), rest)
    else
      let closing := c.closing s references r o t rest
      let outer := { outer with barred := closing.barred, allowance := r.allowance - closing.cost }
      match closing.link with
      | none => (outer.addAll (text :: o.dissolve s), rest)
      | some reference =>
        let tag : Tag := if o.image then .image reference.target reference.title
          else .link false reference.target reference.title
        let outer := if o.image then outer
          else { outer with openers := around.map fun p => { p with active := p.active && p.image } }
        let inner := Item.resolve (o.items.any (·.isMarks)) o.items
        (outer.add (.events (inside tag inner).reverse), closing.rest)

/-- What is left behind a closing bracket is not more than was there. -/
theorem length_closeBracket_le (s : Source) (c : Content) (references : References) (r : Reader)
    (t : Token) (rest : List Token) :
    (closeBracket s c references r t rest).2.length ≤ rest.length := by
  unfold closeBracket
  grind [length_closing_le]

/-- Reads tokens one after the other. -/
def readTokens (s : Source) (c : Content) (references : References) (r : Reader) :
    List Token → Reader
  | [] => r
  | t :: rest =>
    match t.kind with
    | .text => readTokens s c references (r.event (s.textEvent t.start t.stop)) rest
    | .reference value =>
      readTokens s c references
        (r.event (.text value, ⟨s.offset t.start, s.offset t.stop⟩)) rest
    | .marks mark length flanks =>
      readTokens s c references (r.add (.marks ⟨mark, flanks, markTexts s t length⟩)) rest
    | .softBreak =>
      readTokens s c references (r.event (.softBreak, ⟨s.offset t.start, s.offset t.stop⟩)) rest
    | .hardBreak true =>
      readTokens s c references (r.add (.hardBreak (s.textEvent t.start t.stop))) rest
    | .hardBreak false =>
      readTokens s c references (r.event (.hardBreak, ⟨s.offset t.start, s.offset t.stop⟩)) rest
    | .openBracket image =>
      readTokens s c references { r with openers := ⟨t, image, true, []⟩ :: r.openers } rest
    | .openAngle =>
      match h : angle s c t rest with
      | (events, left) =>
        have := h ▸ length_angle_le s c t rest
        readTokens s c references (r.add (.events events)) left
    | .ticks length escaped =>
      match h : ticks s c t length escaped rest with
      | (events, left) =>
        have := h ▸ length_ticks_le s c t length escaped rest
        readTokens s c references (r.add (.events events)) left
    | .closeBracket =>
      match h : closeBracket s c references r t rest with
      | (r', left) =>
        have := h ▸ length_closeBracket_le s c references r t rest
        readTokens s c references r' left
termination_by tokens => tokens.length
decreasing_by all_goals (simp_all only [List.length_cons]; omega)

/-- The events of a content, and the bytes that links behind it may still copy from definitions. -/
def events (source : Source) (references : References) (c : Content) (allowance : Nat) :
    List Sited × Nat :=
  let s := source.upTo c.stop
  let r := c.readTokens s references (.empty allowance) c.tokens
  (Item.resolve (c.tokens.any (·.kind.isMark)) (r.finish s), r.allowance)

end Content

end Furigana.Markdown
