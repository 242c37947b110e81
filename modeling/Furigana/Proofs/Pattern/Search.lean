import Mathlib
import Furigana.Proofs.Pattern
import Furigana.Proofs.Scan

/-!
# What a source finds

The sources are written in a small part of the language of regular expressions: literals, classes that
are matched once or greedily over and over, and groups with alternatives.  A repetition sign stands
behind a class or a group only, and alternatives stand inside of groups, so that no precedence has to be
settled.  Read as an expression, each of the sources finds what the search finds that it is the source of.

A tool that searches by trying out takes the first way that leads to a match.  Alternatives are tried in
their order, and a repetition takes as many characters as it can.  That is all that `Expression.first?`
says; nothing in it knows of forms, runs or boundaries.

* `Item`, `CharClass`, `Choice`, `Part`, `Element` — expressions and their sources;
* `Part.ways`, `Expression.first?` — the ways to match a part, and the match that is found first;
* `findSome?_runs` — trying out the runs of a class is the search for the longest one;
* `first?_glyph_cons`, `first?_literal`, `first?_oneOrMore`, `first?_zeroOrMore` — one element at a time;
* `Form.expression`, **`form_finds`** — the source of a form finds what the form does;
* `Brackets.expression`, **`detection_finds`** — and likewise for pairs.
-/

namespace Furigana.Pattern

/-! ## Expressions -/

/-- A member of a class. -/
inductive Item where
  | one (c : Char)
  /-- The characters between two that are written as they are. -/
  | between (r : CharRange)
  /-- The characters between two that are written as numbers. -/
  | numbered (r : CharRange)
  | ascii
deriving DecidableEq, Repr

namespace Item

/-- A member as it is written. -/
def source : Item → Text
  | one c => char c
  | between r => char r.first ++ '-' :: char r.last
  | numbered r => range r
  | ascii => ['\\', 'x', '0', '0', '-', '\\', 'x', '7', 'F']

/-- Whether a member covers a character. -/
def covers : Item → Char → Bool
  | one d, c => c == d
  | between r, c => r.contains c
  | numbered r, c => r.contains c
  | ascii, c => c ≤ '\x7f'

end Item

/-- A class: the characters that its members cover, or all others. -/
structure CharClass where
  negated : Bool
  items : List Item
  items_ne_nil : items ≠ []

namespace CharClass

/-- A class as it is written. -/
def source (k : CharClass) : Text :=
  '[' :: (if k.negated then ['^'] else []) ++ k.items.flatMap Item.source ++ [']']

/-- Whether a class holds a character. -/
def holds (k : CharClass) (c : Char) : Bool := k.items.any (·.covers c) != k.negated

end CharClass

/-- Classes to choose from. -/
structure Choice where
  first : CharClass
  others : List CharClass

namespace Choice

/-- The classes in their order. -/
def classes (ks : Choice) : List CharClass := ks.first :: ks.others

/-- A choice as it is written, so that a repetition sign behind it refers to all of it. -/
def source (ks : Choice) : Text :=
  match ks.others with
  | [] => ks.first.source
  | others => '(' :: '?' :: ':' :: ks.first.source ++ others.flatMap ('|' :: ·.source) ++ [')']

/-- Whether one of the classes holds a character. -/
def holds (ks : Choice) (c : Char) : Bool := ks.classes.any (·.holds c)

end Choice

/-- What is not a group. -/
inductive Part where
  /-- The start of the whole text. -/
  | start
  | nothing
  | literal (t : Text)
  | one (k : CharClass)
  | oneOrMore (ks : Choice)
  | zeroOrMore (ks : Choice)

/-- A part as it is written. -/
def Part.source : Part → Text
  | start => ['^']
  | nothing => []
  | literal t => Pattern.literal t
  | one k => k.source
  | oneOrMore ks => ks.source ++ ['+']
  | zeroOrMore ks => ks.source ++ ['*']

/-- A part that is not caught, or a group that catches one of its alternatives. -/
inductive Element where
  | bare (part : Part)
  | group (first : Part) (others : List Part)

/-- An element as it is written. -/
def Element.source : Element → Text
  | bare part => part.source
  | group first others => '(' :: first.source ++ others.flatMap ('|' :: ·.source) ++ [')']

/-- Elements one after the other. -/
abbrev Expression := List Element

/-- An expression as it is written. -/
def Expression.source (x : Expression) : Text := x.flatMap Element.source

/-! ## Matches -/

/-- The ways to match a choice over and over, the longest first: what is taken and what is left.  A
character that several of the classes hold is tried once for each of them. -/
def Choice.runs (ks : Choice) : Text → List (Text × Text)
  | [] => []
  | c :: t => (ks.classes.filter (·.holds c)).flatMap fun _ =>
      (ks.runs t).map (fun (run, rest) => (c :: run, rest)) ++ [([c], t)]

/-- The ways to match a part at the start of a text, in the order in which they are tried.  `isStart`
says whether the text is the whole one. -/
def Part.ways (isStart : Bool) : Part → Text → List (Text × Text)
  | start, t => if isStart then [([], t)] else []
  | nothing, t => [([], t)]
  | literal l, t => ((l.isPrefixOf? t).map fun rest => (l, rest)).toList
  | one _, [] => []
  | one k, c :: t => if k.holds c then [([c], t)] else []
  | oneOrMore ks, t => ks.runs t
  | zeroOrMore ks, t => ks.runs t ++ [([], t)]

/-- The ways to match an element. -/
def Element.ways (isStart : Bool) : Element → Text → List (Text × Text)
  | bare part, t => part.ways isStart t
  | group first others, t => (first :: others).flatMap (·.ways isStart t)

/-- What an element catches of the text that it takes. -/
def Element.caught : Element → Text → List Text
  | bare _, _ => []
  | group _ _, taken => [taken]

/-- The match at the start of a text that is found first, by what its groups have caught and by its
whole text.  Of the ways to match an element the first one counts behind which there is a match for
the rest of the expression. -/
def Expression.first? (isStart : Bool) : Expression → Text → Option (List Text × Text)
  | [], _ => some ([], [])
  | x :: xs, t => (x.ways isStart t).findSome? fun (taken, rest) =>
      (first? (isStart && taken.isEmpty) xs rest).map fun (groups, matched) =>
        (x.caught taken ++ groups, taken ++ matched)

/-! ## Trying out runs -/

variable {α β : Type} {isStart : Bool} {xs : Expression} {t : Text}

/-- What fails once fails again. -/
lemma findSome?_flatMap_const {ι : Type} (l : List ι) (ways : List α) (k : α → Option β) :
    (l.flatMap fun _ => ways).findSome? k = if l = [] then none else ways.findSome? k := by
  induction l with
  | nil => rfl
  | cons i l ih =>
      rw [List.flatMap_cons, List.findSome?_append, ih]
      cases ways.findSome? k <;> simp

/-- **Trying out the runs of a choice** finds the longest one behind which the rest of a search
succeeds. -/
lemma findSome?_runs (ks : Choice) (next : Text → Option α) (result : Text → α → β)
    {k : Text × Text → Option β}
    (hk : ∀ run rest, run ≠ [] → k (run, rest) = (next rest).map (result run)) (t : Text) :
    (ks.runs t).findSome? k
      = (runThen ks.holds next t).map fun (run, found) => result run found := by
  induction t generalizing k result with
  | nil => rfl
  | cons c t ih =>
      have hlonger : ((ks.runs t).map fun (run, rest) => (c :: run, rest)).findSome? k
          = (runThen ks.holds next t).map fun (run, found) => result (c :: run) found := by
        rw [List.findSome?_map]
        exact ih (fun run => result (c :: run)) fun run rest _ => hk (c :: run) rest (by simp)
      have hholds : (ks.classes.filter (·.holds c) = []) ↔ ¬ ks.holds c := by
        simp [Choice.holds, List.filter_eq_nil_iff]
      rw [Choice.runs, findSome?_flatMap_const, List.findSome?_append, hlonger,
        List.findSome?_singleton, hk [c] t (by simp), runThen]
      by_cases hc : ks.holds c
      · rw [if_neg (by simpa [hholds] using hc), if_pos hc]
        cases runThen ks.holds next t <;> cases next t <;> rfl
      · rw [if_pos (hholds.2 hc), if_neg hc]
        rfl

/-! ## Elements -/

lemma first?_literal (l : Text) (hl : l ≠ []) (t : Text) :
    Expression.first? isStart (.bare (.literal l) :: xs) t
      = (l.isPrefixOf? t).bind fun rest =>
        (Expression.first? false xs rest).map fun (groups, matched) => (groups, l ++ matched) := by
  have hempty := List.isEmpty_eq_false_iff.2 hl
  rw [Expression.first?, Element.ways, Part.ways]
  cases l.isPrefixOf? t <;> simp [hempty, Element.caught]

lemma first?_oneOrMore (ks : Choice) (t : Text) :
    Expression.first? isStart (.group (.oneOrMore ks) [] :: xs) t
      = (runThen ks.holds (Expression.first? false xs) t).map fun (run, groups, matched) =>
        (run :: groups, run ++ matched) := by
  rw [Expression.first?, Element.ways, List.flatMap_singleton, Part.ways]
  refine findSome?_runs ks _ (fun run (groups, matched) => (run :: groups, run ++ matched))
    (fun run rest hrun => ?_) t
  have hempty := List.isEmpty_eq_false_iff.2 hrun
  simp [hempty, Element.caught]

/-- Behind the start of the text a run may as well be empty. -/
lemma first?_zeroOrMore (ks : Choice) (t : Text) :
    Expression.first? false (.group (.zeroOrMore ks) [] :: xs) t
      = (runOrNoneThen ks.holds (Expression.first? false xs) t).map fun (run, groups, matched) =>
        (run :: groups, run ++ matched) := by
  rw [Expression.first?, Element.ways, List.flatMap_singleton, Part.ways, List.findSome?_append,
    List.findSome?_singleton, runOrNoneThen]
  rw [findSome?_runs ks (Expression.first? false xs)
    (fun run (groups, matched) => (run :: groups, run ++ matched))
    fun run rest _ => by simp [Element.caught]]
  cases runThen ks.holds (Expression.first? false xs) t <;>
    simp [Element.caught, Function.comp_def]

lemma first?_glyph_nil (glyph : Char) :
    Expression.first? isStart (.bare (.literal [glyph]) :: xs) [] = none := by
  rw [first?_literal _ (by simp)]
  rfl

lemma first?_glyph_cons (glyph c : Char) (t : Text) :
    Expression.first? isStart (.bare (.literal [glyph]) :: xs) (c :: t)
      = if c = glyph then (Expression.first? false xs t).map fun (groups, matched) =>
          (groups, glyph :: matched)
        else none := by
  rw [first?_literal _ (by simp)]
  by_cases hc : c = glyph
  · simp [hc, List.isPrefixOf?]
  · simp [hc, Ne.symm hc, List.isPrefixOf?]

/-- The end of an expression: a group for the gloss, and the glyph that closes it. -/
def glossExpression (ks : Choice) (closing : Char) : Expression :=
  [.group (.oneOrMore ks) [], .bare (.literal [closing])]

lemma first?_glossExpression (ks : Choice) (closing : Char) (t : Text) :
    (glossExpression ks closing).first? isStart t
      = ((runThen ks.holds ([closing].isPrefixOf? ·) t).map (·.1)).map fun gloss =>
        ([gloss], gloss ++ [closing]) := by
  have hend : Expression.first? false [.bare (.literal [closing])]
      = fun t => ([closing].isPrefixOf? t).map fun _ => ([], [closing]) := by
    funext t
    rw [first?_literal _ (by simp)]
    cases [closing].isPrefixOf? t <;> simp [Expression.first?]
  rw [glossExpression, first?_oneOrMore, hend, runThen_map, Option.map_map, Option.map_map]
  rfl

/-! ## Classes -/

lemma covers_one (c d : Char) : (Item.one d).covers c = (c == d) := rfl

lemma covers_ascii (c : Char) : Item.ascii.covers c = !decide ('\x7f' < c) := by
  rw [Item.covers, ← decide_not]
  exact decide_eq_decide.2 not_lt.symm

/-- A choice of one class is that class. -/
lemma holds_singleton (k : CharClass) : (Choice.mk k []).holds = k.holds := by
  funext c
  simp [Choice.holds, Choice.classes]

/-- The ASCII letters and digits and the underscore. -/
def asciiWordClass : CharClass :=
  ⟨false, [.between ⟨'0', '9'⟩, .between ⟨'A', 'Z'⟩, .between ⟨'a', 'z'⟩, .one '_'], by simp⟩

lemma holds_asciiWordClass (c : Char) : asciiWordClass.holds c = isAsciiWord c := by
  simp [CharClass.holds, asciiWordClass, Item.covers, CharRange.contains, isAsciiWord,
    Text.isAsciiAlphanumeric, Bool.or_assoc]

/-- The inner characters. -/
def innerClasses : Choice := ⟨⟨true, [.ascii], by simp⟩, [asciiWordClass]⟩

lemma holds_innerClasses : innerClasses.holds = isInner := by
  funext c
  have hascii : (CharClass.mk true [.ascii] (by simp)).holds c = decide ('\x7f' < c) := by
    simp [CharClass.holds, covers_ascii]
  simp [Choice.holds, Choice.classes, innerClasses, hascii, holds_asciiWordClass, isInner]

/-- A class of ranges that are written as numbers. -/
def numberedClass (negated : Bool) (rs : List CharRange) (h : rs ≠ []) : CharClass :=
  ⟨negated, rs.map .numbered, by simpa using h⟩

lemma source_numberedClass {negated : Bool} {rs : List CharRange} (h : rs ≠ []) :
    (numberedClass negated rs h).source
      = '[' :: (if negated then ['^'] else []) ++ ranges rs ++ [']'] := by
  rw [CharClass.source, numberedClass, List.flatMap_map]
  rfl

lemma holds_numberedClass {negated : Bool} {rs : List CharRange} (h : rs ≠ []) (c : Char) :
    (numberedClass negated rs h).holds c = (rs.any (·.contains c) != negated) := by
  rw [CharClass.holds, numberedClass, List.any_map]
  rfl

/-- The ideographs, or all other characters. -/
def logographicClass (negated : Bool) : CharClass :=
  numberedClass negated logographicRanges (by decide)

lemma holds_logographicClass : (logographicClass false).holds = isLogographic := by
  funext c
  simp [logographicClass, holds_numberedClass, isLogographic]

/-- Kana and their marks. -/
def annotationClass : CharClass := numberedClass false annotationRanges (by decide)

lemma holds_annotationClass : annotationClass.holds = isAnnotation := by
  funext c
  simp [annotationClass, holds_numberedClass, isAnnotation]

/-- What a pair allows in a gloss. -/
def glossClasses (b : Brackets) : Choice :=
  ⟨⟨true, [.one b.opening, .one b.closing, .ascii], by simp⟩,
    [asciiWordClass, ⟨false, separators.map .one, by decide⟩]⟩

lemma holds_glossClasses (b : Brackets) : (glossClasses b).holds = b.allowsInGloss := by
  funext c
  have hbeyond : (CharClass.mk true [.one b.opening, .one b.closing, .ascii] (by simp)).holds c
      = ('\x7f' < c && c != b.opening && c != b.closing) := by
    simp only [CharClass.holds, List.any_cons, List.any_nil, covers_ascii, covers_one, bne]
    cases decide ('\x7f' < c) <;> simp
  have hseparator : (CharClass.mk false (separators.map .one) (by decide)).holds c
      = isSeparator c := by
    rw [isSeparator, List.contains_eq_any_beq, CharClass.holds, List.any_map, Bool.bne_false]
    rfl
  simp [Choice.holds, Choice.classes, glossClasses, hbeyond, holds_asciiWordClass, hseparator,
    Brackets.allowsInGloss, Bool.or_assoc]

/-! ## Forms -/

/-- A form as an expression: its marks around a group for the word and one for the gloss. -/
def formExpression (f : Form) : Expression :=
  .bare (.literal [f.main.opening]) :: .group (.oneOrMore innerClasses) [] ::
    .bare (.literal f.middle) :: glossExpression innerClasses f.gloss.closing

lemma source_formExpression (f : Form) : (formExpression f).source = form f := by
  have hinner : innerClasses.source ++ ['+'] = inner := by decide
  simp [Expression.source, formExpression, glossExpression, Element.source, Part.source, hinner,
    literal, form, Form.middle]

/-- **The source of a form finds what the form does**: read as an expression it matches at the start of
a text exactly if an occurrence is found there.  The first group is then the word, the second one the
gloss, and the whole match the occurrence as it is written. -/
theorem form_finds (f : Form) : (formExpression f).source = form f ∧ ∀ isStart t,
    (formExpression f).first? isStart t
      = (f.find t).map fun (o, matched) => ([o.word, o.gloss], matched) := by
  refine ⟨source_formExpression f, fun isStart t => ?_⟩
  -- from the end of the expression to its start
  have hgloss : (glossExpression innerClasses f.gloss.closing).first? false
      = fun t => (f.findGloss t).map fun gloss => ([gloss], gloss ++ [f.gloss.closing]) := by
    funext t
    rw [first?_glossExpression, holds_innerClasses, Form.findGloss]
  have hmiddle : Expression.first? false
      (.bare (.literal f.middle) :: glossExpression innerClasses f.gloss.closing)
      = fun t => ((f.middle.isPrefixOf? t).bind f.findGloss).map fun gloss =>
        ([gloss], f.middle ++ (gloss ++ [f.gloss.closing])) := by
    funext t
    rw [first?_literal _ (by simp [Form.middle]), hgloss, Option.map_bind]
    simp only [Option.map_map]
    rfl
  cases t with
  | nil => exact first?_glyph_nil f.main.opening
  | cons c t =>
      rw [formExpression, first?_glyph_cons, first?_oneOrMore, hmiddle, holds_innerClasses,
        runThen_map, Form.find]
      split_ifs
      · simp [Form.write, Function.comp_def]
      · rfl

-- The glyphs are inner characters, so the first repetition takes too much and has to give back.
example : (formExpression ⟨⟨'a', 'b'⟩, [], ⟨'c', 'd'⟩⟩).first? false "a1bc2d字".toList
    = some (["1".toList, "2".toList], "a1bc2d".toList) := by decide +kernel

/-! ## Pairs -/

/-- What may stand before a word: nothing at the start of the text, else one character that is no
ideograph, else nothing. -/
def boundaryElement : Element := .group .start [.one (logographicClass true), .nothing]

/-- A word and its gloss under a pair: groups for the base, the kana behind it and the gloss. -/
def wordExpression (b : Brackets) : Expression :=
  .group (.oneOrMore ⟨logographicClass false, []⟩) [] ::
    .group (.zeroOrMore ⟨annotationClass, []⟩) [] :: .bare (.literal [b.opening]) ::
    glossExpression (glossClasses b) b.closing

/-- A pair as an expression: a group for the boundary, and the word. -/
def detectionExpression (b : Brackets) : Expression := boundaryElement :: wordExpression b

lemma source_glossClasses (b : Brackets) : (glossClasses b).source
    = "(?:[^".toList ++ (char b.opening ++ (char b.closing
      ++ ("\\x00-\\x7F]|[0-9A-Za-z_]|[".toList ++ (separator ++ "])".toList)))) := by
  have hbeyond : ∀ h, (CharClass.mk true [.one b.opening, .one b.closing, .ascii] h).source
      = '[' :: '^' :: (char b.opening ++ (char b.closing ++ "\\x00-\\x7F]".toList)) := fun _ => by
    simp [CharClass.source, Item.source]
  have hword : asciiWordClass.source = "[0-9A-Za-z_]".toList := by decide
  have hseparator : ∀ h, (CharClass.mk false (separators.map .one) h).source
      = '[' :: (separator ++ [']']) := fun _ => by
    rw [CharClass.source, List.flatMap_map]
    rfl
  simp only [glossClasses, Choice.source, hbeyond, hword, hseparator, List.flatMap_cons,
    List.flatMap_nil, List.append_assoc, List.cons_append]
  rfl

lemma source_detectionExpression (b : Brackets) :
    (detectionExpression b).source = detection b := by
  have hlogographic : (logographicClass false).source = ['['] ++ logographic ++ [']'] :=
    source_numberedClass _
  have hother : (logographicClass true).source = ['[', '^'] ++ logographic ++ [']'] :=
    source_numberedClass _
  have hannotation : annotationClass.source = ['['] ++ annotation ++ [']'] :=
    source_numberedClass _
  have hone : ∀ k : CharClass, (Choice.mk k []).source = k.source := fun _ => rfl
  unfold detection
  simp only [Expression.source, detectionExpression, boundaryElement, wordExpression,
    glossExpression, Element.source, Part.source, hone, hlogographic, hother, hannotation,
    source_glossClasses, literal, List.flatMap_cons, List.flatMap_nil, List.append_assoc,
    List.append_nil, List.cons_append]
  -- the classes are long tables, which the comparison need not look into
  generalize logographic = l, annotation = a, separator = s, char b.opening = x, char b.closing = y
  rfl

/-- The groups of a match and its text. -/
def caught : Detection × Text → List Text × Text
  | (d, matched) => ([d.boundary, d.base, d.suffix, d.gloss], matched)

/-- A word behind a boundary. -/
lemma map_first?_wordExpression (b : Brackets) (boundary : Text) (isStart : Bool) (t : Text) :
    (((wordExpression b).first? isStart t).map fun (groups, matched) =>
      (boundary :: groups, boundary ++ matched)) = (b.findWord boundary t).map caught := by
  -- from the end of the expression to its start
  have hgloss : Expression.first? false
      (.bare (.literal [b.opening]) :: glossExpression (glossClasses b) b.closing)
      = fun t => (b.findGloss t).map fun gloss => ([gloss], b.opening :: (gloss ++ [b.closing])) := by
    funext t
    cases t with
    | nil => exact first?_glyph_nil b.opening
    | cons c t =>
        rw [first?_glyph_cons, first?_glossExpression, holds_glossClasses, Brackets.findGloss]
        split_ifs
        · simp [Function.comp_def]
        · rfl
  have hsuffix : Expression.first? false (.group (.zeroOrMore ⟨annotationClass, []⟩) [] ::
      .bare (.literal [b.opening]) :: glossExpression (glossClasses b) b.closing)
      = fun t => (runOrNoneThen isAnnotation b.findGloss t).map fun (suffix, gloss) =>
        ([suffix, gloss], suffix ++ b.opening :: (gloss ++ [b.closing])) := by
    funext t
    rw [first?_zeroOrMore, hgloss, holds_singleton, holds_annotationClass, runOrNoneThen_map,
      Option.map_map]
    rfl
  rw [wordExpression, first?_oneOrMore, hsuffix, holds_singleton, holds_logographicClass,
    runThen_map, Brackets.findWord]
  simp [Function.comp_def, caught, Brackets.write]

/-- The ways to match the boundary at the start of a text that is not empty. -/
lemma ways_boundaryElement (isStart : Bool) (c : Char) (t : Text) :
    boundaryElement.ways isStart (c :: t) = (if isStart then [([], c :: t)] else [])
      ++ ((if isLogographic c then [] else [([c], t)]) ++ [([], c :: t)]) := by
  have hother : (logographicClass true).holds c = !isLogographic c := by
    rw [logographicClass, holds_numberedClass, Bool.bne_true]
    rfl
  cases hc : isLogographic c <;> simp [boundaryElement, Element.ways, Part.ways, hother, hc]

/-- **The source of a pair finds what the pair does**: read as an expression it matches at the start of
a text exactly if a glossed word is found there, with the same boundary, base, kana and gloss.  It makes
no difference whether the text is the whole one. -/
theorem detection_finds (b : Brackets) : (detectionExpression b).source = detection b ∧
    ∀ isStart t, (detectionExpression b).first? isStart t
      = (b.detect t).map fun (d, matched) =>
        ([d.boundary, d.base, d.suffix, d.gloss], matched) := by
  refine ⟨source_detectionExpression b, fun isStart t => ?_⟩
  have hways : (detectionExpression b).first? isStart t
      = (boundaryElement.ways isStart t).findSome?
        fun way => (b.findWord way.1 way.2).map caught := by
    rw [detectionExpression, Expression.first?]
    congr 1
    funext ⟨boundary, rest⟩
    exact map_first?_wordExpression b boundary _ rest
  rw [hways]
  cases t with
  | nil => cases isStart <;> rfl
  | cons c t =>
      rw [ways_boundaryElement, List.findSome?_append, List.findSome?_append,
        List.findSome?_singleton, Brackets.detect]
      by_cases hc : isLogographic c
      · rw [if_pos hc, if_pos hc, List.findSome?_nil, Option.none_or]
        cases isStart with
        | false => rfl
        | true =>
            rw [if_pos rfl, List.findSome?_singleton]
            exact Option.or_self
      · -- without an ideograph the word has to stand behind the boundary
        have hnone : b.findWord [] (c :: t) = none := by simp [Brackets.findWord, runThen, hc]
        rw [if_neg hc, if_neg hc, List.findSome?_singleton, hnone, Option.map_none, Option.or_none]
        cases isStart with
        | false => rfl
        | true =>
            rw [if_pos rfl, List.findSome?_singleton, hnone]
            rfl

end Furigana.Pattern
