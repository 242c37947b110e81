import Mathlib
import Furigana.Markdown.Annotation
import Furigana.Proofs.Html

/-!
# Backslashes put back

Before a conversion the backslashes that markdown dropped are put back into a run of texts, and after
it every backslash in front of ASCII punctuation is dropped.  The second step does not know which
backslashes the first one put there.

* `dropEscapes_escapeHtml` — dropping commutes with escaping for HTML;
* `PutBack` — a text with backslashes put back somewhere, `putBack_withEscapes` for a run;
* `KeepsEscape`, `IsLiteral`, `StartsAtEscapes` — what has to hold of a run for the two steps to
  cancel out;
* `dropEscapes_unescape_withEscapes` — they do then, also with the fallback brackets between them.
-/

namespace Furigana.Markdown

open Text (isAsciiPunctuation escapeHtml escapeHtmlChar IsSpecial)

variable {b : Brackets} {c d : Char} {t u x y w raw plain : Text} {source : Array UInt8}
  {before : Option Nat} {run : List (Text × Span)}

/-! ## Dropping backslashes -/

lemma isAsciiPunctuation_escape : isAsciiPunctuation escapeChar := by decide

lemma dropEscapes_cons_of_ne (hc : c ≠ escapeChar) (t : Text) :
    dropEscapes (c :: t) = c :: dropEscapes t := by
  cases t with
  | nil => rfl
  | cons d t => rw [dropEscapes, if_neg fun h => hc h.1]

lemma dropEscapes_append_plain (hu : escapeChar ∉ u) (t : Text) :
    dropEscapes (u ++ t) = u ++ dropEscapes t := by
  induction u with
  | nil => rfl
  | cons c u ih =>
      rw [List.mem_cons, not_or] at hu
      rw [List.cons_append, dropEscapes_cons_of_ne (Ne.symm hu.1), ih hu.2, List.cons_append]

lemma dropEscapes_escape_cons (hd : isAsciiPunctuation d) (t : Text) :
    dropEscapes (escapeChar :: d :: t) = d :: dropEscapes t := by
  rw [dropEscapes, if_pos ⟨rfl, hd⟩]

/-- A backslash stays in front of anything else. -/
lemma dropEscapes_escape_cons_of_not (hd : ¬ isAsciiPunctuation d) (t : Text) :
    dropEscapes (escapeChar :: d :: t) = escapeChar :: dropEscapes (d :: t) := by
  rw [dropEscapes, if_neg fun h => hd h.2]

lemma isAsciiPunctuation_of_isSpecial (h : IsSpecial c) : isAsciiPunctuation c := by
  rcases h with rfl | rfl | rfl | rfl <;> decide

/-- ASCII punctuation still starts with ASCII punctuation when it is escaped for HTML. -/
lemma exists_escapeHtmlChar (hc : isAsciiPunctuation c) :
    ∃ e v, escapeHtmlChar c = e :: v ∧ isAsciiPunctuation e ∧ escapeChar ∉ v := by
  by_cases h : IsSpecial c
  · obtain ⟨name, _, hreference⟩ := Text.escapeHtmlChar_of_special h
    have hesc : c ≠ escapeChar := fun heq => Text.not_isSpecial_escape (heq ▸ h)
    refine ⟨'&', name ++ [';'], hreference, by decide, fun hmem => ?_⟩
    exact Text.escape_notMem_escapeHtmlChar hesc (hreference ▸ List.mem_cons_of_mem _ hmem)
  · exact ⟨c, [], Text.escapeHtmlChar_of_not_special h, hc, by simp⟩

/-- **Dropping backslashes commutes with escaping for HTML.** -/
theorem dropEscapes_escapeHtml (t : Text) :
    dropEscapes (escapeHtml t) = escapeHtml (dropEscapes t) := by
  have hcons : ∀ (c : Char) (u : Text), c ≠ escapeChar →
      dropEscapes (escapeHtmlChar c ++ u) = escapeHtmlChar c ++ dropEscapes u :=
    fun c u hc => dropEscapes_append_plain (Text.escape_notMem_escapeHtmlChar hc) u
  fun_induction dropEscapes t with
  | case1 => rfl
  | case2 c =>
      by_cases hc : c = escapeChar
      · subst hc
        rw [Text.escapeHtml_cons_of_not_special Text.not_isSpecial_escape]
        rfl
      · exact hcons c [] hc
  | case3 c d t h ih =>
      obtain ⟨rfl, hd⟩ := h
      obtain ⟨e, v, hv, he, hesc⟩ := exists_escapeHtmlChar hd
      rw [Text.escapeHtml_cons_of_not_special Text.not_isSpecial_escape, Text.escapeHtml_cons,
        Text.escapeHtml_cons, hv, List.cons_append, dropEscapes_escape_cons he,
        dropEscapes_append_plain hesc, ih, List.cons_append]
  | case4 c d t h ih =>
      rw [Text.escapeHtml_cons c (dropEscapes _), ← ih, Text.escapeHtml_cons c]
      by_cases hc : c = escapeChar
      · subst hc
        have hd : ¬ isAsciiPunctuation d := fun hd => h ⟨rfl, hd⟩
        obtain ⟨e, u, hu, ⟨rfl, _⟩ | ⟨_, hspecial⟩⟩ := Text.exists_cons_escapeHtml d t
        · rw [Text.escapeHtmlChar_of_not_special Text.not_isSpecial_escape, hu]
          exact dropEscapes_escape_cons_of_not hd u
        · exact absurd (isAsciiPunctuation_of_isSpecial hspecial) hd
      · exact hcons c _ hc

/-! ## Putting backslashes back -/

/-- A text with backslashes put back into it somewhere. -/
inductive PutBack : (raw plain : Text) → Prop
  | nil : PutBack [] []
  | keep {raw plain : Text} (c : Char) (h : PutBack raw plain) : PutBack (c :: raw) (c :: plain)
  | back {raw plain : Text} (h : PutBack raw plain) : PutBack (escapeChar :: raw) plain

namespace PutBack

lemma append_left (h : PutBack raw plain) (u : Text) : PutBack (u ++ raw) (u ++ plain) := by
  induction u with
  | nil => exact h
  | cons c u ih => exact ih.keep c

/-- An end of the text with backslashes put back is an end of the text with some put back. -/
lemma exists_of_suffix (h : PutBack raw plain) (hx : x <:+ raw) :
    ∃ y, y <:+ plain ∧ PutBack x y := by
  induction h with
  | nil =>
      obtain rfl := List.suffix_nil.1 hx
      exact ⟨[], List.suffix_rfl, .nil⟩
  | keep c h ih =>
      rcases List.suffix_cons_iff.1 hx with rfl | hx
      · exact ⟨_, List.suffix_rfl, h.keep c⟩
      · obtain ⟨y, hy, hxy⟩ := ih hx
        exact ⟨y, hy.trans (List.suffix_cons c _), hxy⟩
  | back h ih =>
      rcases List.suffix_cons_iff.1 hx with rfl | hx
      · exact ⟨_, List.suffix_rfl, h.back⟩
      · exact ih hx

/-- A start without backslashes was there before. -/
lemma exists_of_append (hw : escapeChar ∉ w) (h : PutBack (w ++ x) y) :
    ∃ z, y = w ++ z ∧ PutBack x z := by
  induction w generalizing y with
  | nil => exact ⟨y, rfl, h⟩
  | cons c w ih =>
      rw [List.mem_cons, not_or] at hw
      rw [List.cons_append] at h
      cases h with
      | keep _ h =>
          obtain ⟨z, rfl, hz⟩ := ih hw.2 h
          exact ⟨z, rfl, hz⟩
      | back h => exact absurd rfl hw.1

/-- A stretch without backslashes that stands in the text with some put back stands in the text. -/
lemma exists_append_suffix (h : PutBack raw plain) (hw : escapeChar ∉ w) (hx : w ++ x <:+ raw) :
    ∃ z, w ++ z <:+ plain := by
  obtain ⟨y, hy, hxy⟩ := h.exists_of_suffix hx
  obtain ⟨z, rfl, _⟩ := hxy.exists_of_append hw
  exact ⟨z, hy⟩

end PutBack

/-- The content of a run with the dropped backslashes back. -/
lemma putBack_withEscapes (source : Array UInt8) (before : Option Nat) (run : List (Text × Span)) :
    PutBack (withEscapes source before run) (run.flatMap (·.1)) := by
  induction run generalizing before with
  | nil => exact .nil
  | cons piece run ih =>
      have happend := (ih (some piece.2.stop)).append_left piece.1
      rw [withEscapes, List.append_assoc, List.flatMap_cons]
      split_ifs
      · exact happend.back
      · exact happend

/-! ## Where the two steps cancel out -/

/-- Whether a backslash in front of a text is literal: it stands neither before ASCII punctuation nor
before one of the two glyphs. -/
def KeepsEscape (b : Brackets) : Text → Prop
  | [] => True
  | d :: _ => ¬ isAsciiPunctuation d ∧ d ≠ b.opening ∧ d ≠ b.closing

/-- Whether each backslash of a text is literal. -/
def IsLiteral (b : Brackets) : Text → Prop
  | [] => True
  | c :: t => (c = escapeChar → KeepsEscape b t) ∧ IsLiteral b t

/-- Each text of a run that follows a dropped backslash starts with the punctuation that it
escaped. -/
def StartsAtEscapes (source : Array UInt8) : Option Nat → List (Text × Span) → Prop
  | _, [] => True
  | before, (content, span) :: rest =>
    (followsEscape source span.start before → content.head?.any isAsciiPunctuation) ∧
      StartsAtEscapes source (some span.stop) rest

instance : DecidablePred (KeepsEscape b)
  | [] => inferInstanceAs (Decidable True)
  | d :: _ => inferInstanceAs (Decidable (¬ isAsciiPunctuation d ∧ d ≠ b.opening ∧ d ≠ b.closing))

instance decidableIsLiteral : DecidablePred (IsLiteral b)
  | [] => inferInstanceAs (Decidable True)
  | c :: t =>
    have := decidableIsLiteral t
    inferInstanceAs (Decidable ((c = escapeChar → KeepsEscape b t) ∧ IsLiteral b t))

instance decidableStartsAtEscapes :
    (before : Option Nat) → DecidablePred (StartsAtEscapes source before)
  | _, [] => inferInstanceAs (Decidable True)
  | before, (content, span) :: rest =>
    have := decidableStartsAtEscapes (some span.stop) rest
    inferInstanceAs (Decidable ((followsEscape source span.start before →
      content.head?.any isAsciiPunctuation) ∧ StartsAtEscapes source (some span.stop) rest))

lemma dropEscapes_unescape_cons_of_ne (hc : c ≠ escapeChar) (t : Text) :
    dropEscapes (unescape b (c :: t)) = c :: dropEscapes (unescape b t) := by
  rw [unescape_cons_of_ne hc, dropEscapes_cons_of_ne hc]

lemma KeepsEscape.unescape (h : KeepsEscape b t) : KeepsEscape b (unescape b t) := by
  cases t with
  | nil => trivial
  | cons d t =>
      have hd : d ≠ escapeChar := fun heq => h.1 (heq ▸ isAsciiPunctuation_escape)
      rwa [unescape_cons_of_ne hd]

/-- A literal backslash comes through both steps. -/
lemma KeepsEscape.unescape_escape (h : KeepsEscape b t) :
    Furigana.unescape b (escapeChar :: t) = escapeChar :: Furigana.unescape b t := by
  cases t with
  | nil => rfl
  | cons d t => exact unescape_escape_cons_of_ne h.2.1 h.2.2 t

lemma KeepsEscape.dropEscapes_escape (h : KeepsEscape b t) :
    dropEscapes (escapeChar :: t) = escapeChar :: dropEscapes t := by
  cases t with
  | nil => rfl
  | cons d t => exact dropEscapes_escape_cons_of_not h.1 t

lemma KeepsEscape.dropEscapes_unescape (h : KeepsEscape b t) :
    dropEscapes (Furigana.unescape b (escapeChar :: t))
      = escapeChar :: dropEscapes (Furigana.unescape b t) := by
  rw [h.unescape_escape, h.unescape.dropEscapes_escape]

/-- A backslash before punctuation is dropped by the one step or the other. -/
lemma dropEscapes_unescape_back (hc : isAsciiPunctuation c)
    (h : c = escapeChar → KeepsEscape b t) :
    dropEscapes (unescape b (escapeChar :: c :: t)) = dropEscapes (unescape b (c :: t)) := by
  by_cases hglyph : c = b.opening ∨ c = b.closing
  · rw [unescape_escape_glyph hglyph]
  · rw [not_or] at hglyph
    rw [unescape_escape_cons_of_ne hglyph.1 hglyph.2]
    by_cases hesc : c = escapeChar
    · subst hesc
      rw [(h rfl).dropEscapes_unescape, (h rfl).unescape_escape, dropEscapes_escape_cons hc]
    · rw [dropEscapes_unescape_cons_of_ne hesc, unescape_cons_of_ne hesc,
        dropEscapes_escape_cons hc]

/-- A backslash that is literal in front of the content of a run is literal in front of the run with
the dropped backslashes back: none was put back there. -/
lemma KeepsEscape.withEscapes (h : KeepsEscape b (run.flatMap (·.1)))
    (hstarts : StartsAtEscapes source before run) :
    KeepsEscape b (withEscapes source before run) := by
  induction run generalizing before with
  | nil => trivial
  | cons piece run ih =>
      obtain ⟨content, span⟩ := piece
      rw [Markdown.withEscapes]
      rw [List.flatMap_cons] at h
      cases content with
      | nil =>
          have hnot : ¬ followsEscape source span.start before := fun hfollows =>
            absurd (hstarts.1 hfollows) (by simp)
          rw [if_neg hnot]
          exact ih h hstarts.2
      | cons c content =>
          have hnot : ¬ followsEscape source span.start before := fun hfollows =>
            h.1 (hstarts.1 hfollows)
          rw [if_neg hnot]
          exact h

/-- The same behind a stretch of the content. -/
lemma KeepsEscape.append (h : KeepsEscape b (u ++ plain))
    (hend : KeepsEscape b plain → KeepsEscape b raw) : KeepsEscape b (u ++ raw) := by
  cases u with
  | nil => exact hend h
  | cons c u => exact h

lemma IsLiteral.of_append (h : IsLiteral b (u ++ t)) : IsLiteral b t := by
  induction u with
  | nil => exact h
  | cons c u ih => exact ih h.2

/-- A text comes through both steps if its backslashes are literal with what follows. -/
lemma dropEscapes_unescape_append (h : IsLiteral b (u ++ plain))
    (hend : KeepsEscape b plain → KeepsEscape b raw) :
    dropEscapes (unescape b (u ++ raw)) = u ++ dropEscapes (unescape b raw) := by
  induction u with
  | nil => rfl
  | cons c u ih =>
      rw [List.cons_append] at h ⊢
      rw [List.cons_append, ← ih h.2]
      by_cases hc : c = escapeChar
      · subst hc
        exact ((h.1 rfl).append hend).dropEscapes_unescape
      · exact dropEscapes_unescape_cons_of_ne hc _

/-- **Both steps on a run.**  Where no backslash of the content stands before ASCII punctuation or a
glyph, exactly the backslashes that were put back are dropped. -/
theorem dropEscapes_unescape_withEscapes (hstarts : StartsAtEscapes source before run)
    (h : IsLiteral b (run.flatMap (·.1))) :
    dropEscapes (unescape b (withEscapes source before run)) = run.flatMap (·.1) := by
  induction run generalizing before with
  | nil => rfl
  | cons piece run ih =>
      obtain ⟨content, span⟩ := piece
      rw [List.flatMap_cons] at h ⊢
      have hend : KeepsEscape b (run.flatMap (·.1)) →
          KeepsEscape b (withEscapes source (some span.stop) run) :=
        fun hkeeps => hkeeps.withEscapes hstarts.2
      have hcontent : dropEscapes (unescape b (content ++ withEscapes source (some span.stop) run))
          = content ++ run.flatMap (·.1) := by
        rw [dropEscapes_unescape_append h hend, ih hstarts.2 h.of_append]
      rw [withEscapes]
      split_ifs with hfollows
      · -- the backslash that was put back escapes the first character of the content
        obtain ⟨c, hc, hpunctuation⟩ := (Option.any_eq_true _ _).1 (hstarts.1 hfollows)
        obtain ⟨content, rfl⟩ := List.head?_eq_some_iff.1 hc
        rw [← hcontent]
        exact dropEscapes_unescape_back hpunctuation fun hesc => (h.1 hesc).append hend
      · exact hcontent

end Furigana.Markdown
