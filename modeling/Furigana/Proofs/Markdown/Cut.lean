import Mathlib
import Furigana.Markdown.Document
import Furigana.Proofs.Markdown.Annotation
import Furigana.Proofs.Text

/-!
# Texts cut at dropped backslashes

A parser drops the backslashes that escape punctuation and hands over what is left in pieces.  It
may cut where it likes, but no piece goes across a dropped backslash, so that a gap between two
pieces tells where one stood.

* `scanEscapes` — source text with the escaping backslashes told apart from the rest;
* `IsCut` — the runs of texts that it may be cut into, each text with the bytes it stands for;
* `IsCut.plainText_eq`, `IsCut.withEscapes_eq` — the content of such a run, without the dropped
  backslashes and with them;
* `annotate_cut` — the event that replaces the run does not depend on the cuts.
-/

namespace Furigana

/-! ## Bytes of a source -/

namespace Text

variable {c : Char}

lemma utf8EncodeChar_of_ascii (hc : c ≤ '\x7f') : String.utf8EncodeChar c = [c.toUInt8] :=
  String.utf8EncodeChar_eq_singleton (Char.utf8Size_eq_one_iff.2 hc)

lemma ascii_of_isAsciiPunctuation (h : isAsciiPunctuation c) : c ≤ '\x7f' := by
  simp only [isAsciiPunctuation, Bool.or_eq_true, Bool.and_eq_true, decide_eq_true_eq] at h
  rcases h with ((h | h) | h) | h <;> exact h.2.trans (by decide)

end Text

namespace Markdown

open Text (isAsciiPunctuation escapeHtml)

/-- The byte at the place of an ASCII character. -/
lemma byteIs_utf8 {p : Char → Bool} {c : Char} (hc : c ≤ '\x7f') (a t : Text) :
    byteIs p (Text.utf8 (a ++ c :: t)).toArray a.byteLength = p c := by
  have hbound : c.toNat < 128 := Nat.lt_succ_of_le hc
  have hbyte : c.toUInt8.toNat = c.toNat := Nat.mod_eq_of_lt (hbound.trans (by decide))
  have hsmall : c.toUInt8 < 128 := by
    rw [UInt8.lt_iff_toNat_lt, hbyte]
    exact hbound
  have hutf8 : Text.utf8 (a ++ c :: t) = Text.utf8 a ++ c.toUInt8 :: Text.utf8 t := by
    rw [Text.utf8_append, Text.utf8, Text.utf8, List.flatMap_cons, Text.utf8EncodeChar_of_ascii hc]
    rfl
  rw [byteIs, List.getElem?_toArray, hutf8, Text.byteLength_eq_length_utf8,
    List.getElem?_append_right (Nat.le_refl _), Nat.sub_self]
  simp [hsmall, hbyte]

/-! ## Cuts -/

/-- The characters of a source as they are read from left to right, with `none` for each backslash
that escapes the punctuation behind it.  What is escaped is no escape itself. -/
def scanEscapes : Text → List (Option Char)
  | [] => []
  | [c] => [some c]
  | c :: d :: t =>
    if c = escapeChar ∧ isAsciiPunctuation d then none :: some d :: scanEscapes t
    else some c :: scanEscapes (d :: t)

/-- The source that was read. -/
def written (marks : List (Option Char)) : Text := marks.map (·.getD escapeChar)

/-- A run of texts that read characters may be cut into, from a place of the source on: non-empty
texts which leave out the escaping backslashes and nothing else, each with its bytes. -/
inductive IsCut : Nat → List (Option Char) → List (Text × Span) → Prop
  | nil (place : Nat) : IsCut place [] []
  | dropped {place : Nat} {marks : List (Option Char)} {run : List (Text × Span)}
      (h : IsCut (place + 1) marks run) : IsCut place (none :: marks) run
  | piece {place : Nat} {content : Text} {marks : List (Option Char)} {run : List (Text × Span)}
      (hne : content ≠ []) (h : IsCut (place + content.byteLength) marks run) :
      IsCut place (content.map some ++ marks)
        ((content, ⟨place, place + content.byteLength⟩) :: run)

variable {o : Options} {e : Engine} {s a t : Text} {d : Char} {place : Nat}
  {marks : List (Option Char)} {run : List (Text × Span)} {before after : List Sited}

lemma written_append (marks marks' : List (Option Char)) :
    written (marks ++ marks') = written marks ++ written marks' := List.map_append

lemma written_map_some (t : Text) : written (t.map some) = t := by
  rw [written, List.map_map]
  exact List.map_id t

lemma written_scanEscapes (t : Text) : written (scanEscapes t) = t := by
  fun_induction scanEscapes t with
  | case1 => rfl
  | case2 => rfl
  | case3 c d t h ih =>
      obtain ⟨rfl, _⟩ := h
      exact congrArg (escapeChar :: d :: ·) ih
  | case4 c d t h ih => exact congrArg (c :: ·) ih

/-- Without the escaping backslashes it is what dropping them leaves. -/
lemma reduceOption_scanEscapes (t : Text) : (scanEscapes t).reduceOption = dropEscapes t := by
  fun_induction scanEscapes t with
  | case1 => rfl
  | case2 => rfl
  | case3 c d t h ih =>
      rw [List.reduceOption_cons_of_none, List.reduceOption_cons_of_some, ih, dropEscapes, if_pos h]
  | case4 c d t h ih => rw [List.reduceOption_cons_of_some, ih, dropEscapes, if_neg h]

/-- Punctuation stands behind every escaping backslash. -/
lemma exists_of_none_suffix {x : List (Option Char)} (h : none :: x <:+ scanEscapes t) :
    ∃ d y, x = some d :: y ∧ isAsciiPunctuation d := by
  fun_induction scanEscapes t with
  | case1 => exact absurd h (by simp)
  | case2 => exact absurd h (by simp [List.suffix_cons_iff])
  | case3 c d t hesc ih =>
      rcases List.suffix_cons_iff.1 h with heq | h
      · obtain ⟨_, rfl⟩ := List.cons.inj heq
        exact ⟨d, _, rfl, hesc.2⟩
      · exact ih ((List.suffix_cons_iff.1 h).resolve_left (fun heq => nomatch heq))
  | case4 c d t _ ih => exact ih ((List.suffix_cons_iff.1 h).resolve_left (fun heq => nomatch heq))

namespace IsCut

/-- The content of a run is everything but the escaping backslashes. -/
lemma plainText_eq (h : IsCut place marks run) : plainText run = marks.reduceOption := by
  induction h with
  | nil place => rfl
  | dropped h ih => rw [ih, List.reduceOption_cons_of_none]
  | @piece _ content _ _ _ _ ih =>
      have hcontent : (content.map some).reduceOption = content :=
        List.filterMap_map.trans List.filterMap_some
      rw [plainText, List.flatMap_cons, ← plainText, ih, List.reduceOption_append, hcontent]

/-- A text that begins at a character that was read. -/
lemma exists_eq_cons (h : IsCut place (some d :: marks) run) :
    ∃ content stop rest, run = (d :: content, ⟨place, stop⟩) :: rest := by
  generalize hmarks : some d :: marks = marks' at h
  cases h with
  | nil => exact absurd hmarks (by simp)
  | dropped h => exact absurd hmarks (by simp)
  | @piece _ content _ _ hne h =>
      obtain ⟨c, content, rfl⟩ := List.exists_cons_of_ne_nil hne
      obtain ⟨heq, _⟩ := List.cons.inj hmarks
      obtain rfl := Option.some.inj heq
      exact ⟨content, _, _, rfl⟩

/-- **Putting backslashes back undoes dropping them.**  The text `a` has been read up to a place,
which is the start of the source or the end of the text before.  Where the next text begins at that
place no backslash is put back, and where it begins behind a dropped one that one is. -/
theorem withEscapes_eq {before : Option Nat} (h : IsCut place marks run)
    (hplace : place = a.byteLength) (hbefore : before = some place ∨ before = none ∧ place = 0)
    (hmarks : ∀ x, none :: x <:+ marks → ∃ d y, x = some d :: y ∧ isAsciiPunctuation d) :
    withEscapes (Text.utf8 (a ++ written marks)).toArray before run = written marks := by
  induction h generalizing a before with
  | nil place => rfl
  | @dropped place marks run h ih =>
      obtain ⟨d, marks, rfl, hd⟩ := hmarks _ List.suffix_rfl
      obtain ⟨content, stop, rest, rfl⟩ := h.exists_eq_cons
      have hnext : place + 1 = (a ++ [escapeChar]).byteLength := by
        rw [Text.byteLength_append, hplace]
        rfl
      have hsource : a ++ written (none :: some d :: marks)
          = a ++ [escapeChar] ++ written (some d :: marks) := by
        simp [written]
      have hescape : byteIs (· == escapeChar)
          (Text.utf8 (a ++ written (none :: some d :: marks))).toArray place = true := by
        rw [hplace]
        exact byteIs_utf8 (by decide) a (written (some d :: marks))
      have hpunctuation : byteIs isAsciiPunctuation
          (Text.utf8 (a ++ written (none :: some d :: marks))).toArray (place + 1) = true := by
        rw [hsource, hnext]
        exact (byteIs_utf8 (Text.ascii_of_isAsciiPunctuation hd) _ (written marks)).trans hd
      have hfollows : followsEscape (Text.utf8 (a ++ written (none :: some d :: marks))).toArray
          (place + 1) before = true := by
        have hgap : before ≠ some (place + 1) := by
          rcases hbefore with rfl | ⟨rfl, _⟩ <;> simp
        simp [followsEscape, hgap, hescape, hpunctuation]
      have hrest := ih (a := a ++ [escapeChar]) hnext (Or.inl rfl)
        fun x hx => hmarks x (hx.trans (List.suffix_cons _ _))
      have hadjacent : ∀ source, followsEscape source (place + 1) (some (place + 1)) = false := by
        simp [followsEscape]
      rw [← hsource, withEscapes, hadjacent] at hrest
      rw [withEscapes, hfollows, if_pos rfl, List.append_assoc]
      exact congrArg (escapeChar :: ·) hrest
  | @piece place content marks run hne h ih =>
      have hfollows : ∀ source, followsEscape source place before = false := by
        rcases hbefore with rfl | ⟨rfl, rfl⟩ <;> simp [followsEscape]
      have hsource : a ++ written (content.map some ++ marks) = a ++ content ++ written marks := by
        rw [written_append, written_map_some, List.append_assoc]
      have hrest := ih (a := a ++ content) (by rw [Text.byteLength_append, hplace]) (Or.inl rfl)
        fun x hx => hmarks x (hx.trans (List.suffix_append _ _))
      rw [withEscapes, hfollows, hsource, hrest, written_append, written_map_some]
      rfl

end IsCut

/-- The source that a run is cut from. -/
lemma IsCut.withEscapes_source (h : IsCut 0 (scanEscapes s) run) :
    withEscapes s.utf8.toArray none run = s := by
  have hwritten := h.withEscapes_eq (a := []) rfl (Or.inr ⟨rfl, rfl⟩)
    fun x hx => exists_of_none_suffix hx
  rwa [List.nil_append, written_scanEscapes] at hwritten

/-- **The event that replaces a cut source** is the same for every cut.  Let a source be cut into a
run of texts, which stands outside code and images and cannot be made longer on either side.  Then
one event replaces the run, and the events around it become what they become without the run.  The
event is the source without its escaping backslashes if these are all that a conversion of the
escaped source loses, and the converted source without them otherwise.  In particular it is a text
if the conversion changes nothing. -/
theorem annotate_cut (he : e.Reachable) (o : Options) (hcut : IsCut 0 (scanEscapes s) run)
    (hne : run ≠ []) (hbefore : EndsRun before) (hafter : ∀ next ∈ after.head?, ¬ next.1.IsText)
    (hdepth : (Depth.zero.behind before).converts) :
    ∃ event,
      (annotate s o e (before ++ (textEvents run ++ after))).1
        = (annotate s o e before).1 ++ event ::
          (annotateFrom s.utf8.toArray o e (Depth.zero.behind before) after).1 ∧
      event = (if dropEscapes (e.render o (escapeHtml s)).1 = escapeHtml (dropEscapes s)
        then .text (dropEscapes s) else .inlineHtml (dropEscapes (e.render o (escapeHtml s)).1)) ∧
      ((e.render o (escapeHtml s)).1 = escapeHtml s → event = .text (dropEscapes s)) := by
  obtain ⟨front, hfront, hevents⟩ := annotate_run he o s hne hbefore hafter hdepth
  have hevent := (annotateRun_of_reachable hfront s.utf8.toArray o run).1
  rw [hcut.withEscapes_source, hcut.plainText_eq, reduceOption_scanEscapes,
    ← he.render_eq] at hevent
  refine ⟨_, hevents, hevent, fun hsame => ?_⟩
  rw [hevent, hsame, dropEscapes_escapeHtml, if_pos rfl]

/-- An escaped backslash still guards the word behind it and the backslash in front of a letter is
one to read, whether the source is cut at every bracket or nowhere.  Where nothing is converted, an
escaped word stays a text. -/
theorem annotate_cut_at_every_bracket :
    ∃ (paragraph : List (Text × Span) → List Sited) (source : Text)
        (run whole escaped : List (Text × Span)) (converted : Event),
      paragraph = (fun run =>
        [(.enter .paragraph, ⟨0, 0⟩)] ++ (textEvents run ++ [(.leave .paragraph, ⟨0, 0⟩)])) ∧
      source = "\\\\[字]^(じ)、[字]^(じ)\\b".toList ∧ run.length = 9 ∧ whole.length = 1 ∧
      IsCut 0 (scanEscapes source) run ∧ IsCut 0 (scanEscapes source) whole ∧
      converted = .inlineHtml
        "\\[字]^(じ)、<ruby>字<rp>【</rp><rt>じ</rt><rp>】</rp></ruby>\\b".toList ∧
      parse source = paragraph run ∧
      (annotate source .standard .fresh (paragraph run)).1
        = [.enter .paragraph, converted, .leave .paragraph] ∧
      (annotate source .standard .fresh (paragraph whole)).1
        = [.enter .paragraph, converted, .leave .paragraph] ∧
      IsCut 0 (scanEscapes "\\[字]^(じ)".toList) escaped ∧
      (annotate "\\[字]^(じ)".toList .standard .fresh (paragraph escaped)).1
        = [.enter .paragraph, .text "[字]^(じ)".toList, .leave .paragraph] := by
  let source : Text := "\\\\[字]^(じ)、[字]^(じ)\\b".toList
  let run : List (Text × Span) :=
    [(['\\'], ⟨1, 2⟩), (['['], ⟨2, 3⟩), (['字'], ⟨3, 6⟩), ([']'], ⟨6, 7⟩),
      (['^', '(', 'じ', ')', '、'], ⟨7, 16⟩), (['['], ⟨16, 17⟩), (['字'], ⟨17, 20⟩), ([']'], ⟨20, 21⟩),
      (['^', '(', 'じ', ')', '\\', 'b'], ⟨21, 29⟩)]
  let whole : List (Text × Span) := [(plainText run, ⟨1, 29⟩)]
  let escaped : List (Text × Span) := [(['[', '字', ']', '^', '(', 'じ', ')'], ⟨1, 12⟩)]
  have hrun : IsCut 0 (scanEscapes source) run := by
    refine .dropped (.piece (by decide : ['\\'] ≠ []) ?_)
    refine .piece (by decide : ['['] ≠ []) (.piece (by decide : ['字'] ≠ []) ?_)
    refine .piece (by decide : [']'] ≠ []) ?_
    refine .piece (by decide : ['^', '(', 'じ', ')', '、'] ≠ []) ?_
    refine .piece (by decide : ['['] ≠ []) (.piece (by decide : ['字'] ≠ []) ?_)
    refine .piece (by decide : [']'] ≠ []) ?_
    exact .piece (by decide : ['^', '(', 'じ', ')', '\\', 'b'] ≠ []) (.nil _)
  have hwhole : IsCut 0 (scanEscapes source) whole :=
    .dropped (.piece (by decide : plainText run ≠ []) (.nil _))
  have hescaped : IsCut 0 (scanEscapes "\\[字]^(じ)".toList) escaped :=
    .dropped (.piece (by decide : ['[', '字', ']', '^', '(', 'じ', ')'] ≠ []) (.nil _))
  have hbefore : EndsRun [(.enter .paragraph, ⟨0, 0⟩)] := by
    rintro _ ⟨⟩ ⟨_, ⟨⟩⟩
  have hafter : ∀ next ∈ ([(.leave .paragraph, ⟨0, 0⟩)] : List Sited).head?, ¬ next.1.IsText := by
    rintro _ ⟨⟩ ⟨_, ⟨⟩⟩
  have hkept : ∀ (source : Array UInt8) d (event : Event), ¬ event.IsText →
      (annotateFrom source .standard .fresh d [(event, ⟨0, 0⟩)]).1 = [event] :=
    fun source d event h => by rw [annotateFrom_cons_of_not_isText h, annotateFrom]
  have hparagraph : ∀ {s run}, IsCut 0 (scanEscapes s) run → run ≠ [] → ∃ event,
      (annotate s .standard .fresh
          ([(.enter .paragraph, ⟨0, 0⟩)] ++ (textEvents run ++ [(.leave .paragraph, ⟨0, 0⟩)]))).1
        = [.enter .paragraph, event, .leave .paragraph] ∧
      event = (if dropEscapes (Engine.fresh.render .standard (escapeHtml s)).1
            = escapeHtml (dropEscapes s) then .text (dropEscapes s)
          else .inlineHtml (dropEscapes (Engine.fresh.render .standard (escapeHtml s)).1)) ∧
      ((Engine.fresh.render .standard (escapeHtml s)).1 = escapeHtml s →
        event = .text (dropEscapes s)) := by
    intro s run hcut hne
    obtain ⟨event, hevents, hevent⟩ :=
      annotate_cut Engine.Reachable.fresh .standard hcut hne hbefore hafter (by decide)
    rw [annotate, annotate, hkept _ _ _ (by rintro ⟨_, ⟨⟩⟩),
      hkept _ _ _ (by rintro ⟨_, ⟨⟩⟩)] at hevents
    exact ⟨event, hevents, hevent⟩
  obtain ⟨event, hevents, hevent, _⟩ := hparagraph hrun (by decide)
  obtain ⟨event', hevents', hevent', _⟩ := hparagraph hwhole (by decide)
  obtain ⟨event'', hevents'', _, htext⟩ := hparagraph hescaped (by decide)
  obtain rfl : event' = event := hevent'.trans hevent.symm
  obtain rfl : event'' = .text "[字]^(じ)".toList := htext (by decide +kernel)
  refine ⟨_, source, run, whole, escaped, event', rfl, rfl, rfl, rfl, hrun, hwhole, ?_, ?_,
    hevents, hevents', hescaped, hevents''⟩
  · rw [hevent]
    decide +kernel
  · decide +kernel

end Markdown

end Furigana
