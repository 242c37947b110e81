import Mathlib
import Furigana.Proofs.Detection
import Furigana.Proofs.Engine
import Furigana.Proofs.Escape
import Furigana.Proofs.Options

/-!
# Conversions are local to segments

A delimiter is an ASCII character that no word and no gloss can hold and that the options are not
written with, such as a line feed.  A text that is cut at a delimiter is converted side by side, each
side as if it stood alone: a detected word may take the delimiter as the character in front of it, but
that one stays.  Only the escape reaches across, so the first side must not end in one.

* `SplitsAt` — the steps that work on either side of a character, and put no escape before it;
* `behind_pass_ne_escape` — no pass brings an escape to the end of a text;
* `Form.splitsAt_apply`, `Brackets.splitsAt_apply` — the passes are such steps;
* `Options.Delimits`, `Engine.render_append_cons` — delimiters, and what a conversion makes of a text
  with one.
-/

namespace Furigana

variable {c : Char} {φ : Text → Text}

/-- A step that converts what stands before the character and what stands behind it alone, and that
does not bring an escape before the character. -/
structure SplitsAt (c : Char) (φ : Text → Text) : Prop where
  append : ∀ a t, a.getLast? ≠ some escapeChar → φ (a ++ c :: t) = φ a ++ c :: φ t
  last : ∀ a, a.getLast? ≠ some escapeChar → (φ a).getLast? ≠ some escapeChar

/-- Steps one after the other. -/
lemma SplitsAt.foldl {α : Type} {step : α → Text → Text} {steps : List α}
    (h : ∀ s ∈ steps, SplitsAt c (step s)) :
    SplitsAt c fun t => steps.foldl (fun t s => step s t) t := by
  induction steps with
  | nil => exact ⟨fun _ _ _ => rfl, fun _ ha => ha⟩
  | cons s steps ih =>
      have hs := h s (by simp)
      have hsteps := ih fun s hs => h s (List.mem_cons_of_mem _ hs)
      refine ⟨fun a t ha => ?_, fun a ha => hsteps.last _ (hs.last a ha)⟩
      rw [List.foldl_cons, hs.append a t ha, hsteps.append _ _ (hs.last a ha)]
      rfl

/-! ## The end of what a pass leaves -/

/-- **No pass brings an escape to the end.**  A text that does not end in an escape is left without
one at its end if replacements of occurrences without escapes do not end in one. -/
lemma behind_pass_ne_escape {α : Type} {find : Text → Option (α × Text)} {replace : α → Text}
    (hfind : IsSearch find)
    (hreplace : ∀ t a matched, find t = some (a, matched) → escapeChar ∉ matched →
      (replace a).getLast? ≠ some escapeChar)
    (before : Option Char) (t : Text) (ht : behind before t ≠ some escapeChar) :
    behind before (pass find replace before t) ≠ some escapeChar := by
  refine pass_induction hfind (motive := fun before t => behind before t ≠ some escapeChar →
    behind before (pass find replace before t) ≠ some escapeChar) ?_ ?_ ?_ before t ht
  · intro before hbefore
    rwa [pass_nil]
  · intro before d t hnone ih hbehind
    rw [behind_cons] at hbehind
    rw [pass_cons hnone, behind_cons]
    exact ih hbehind
  · intro before matched t a hsome hne ih hbehind
    rw [behind_append] at hbehind
    have ih := ih hbehind
    rw [pass_append_found hsome hne, behind_append]
    by_cases hrest : pass find replace (behind before matched) t = []
    · rw [hrest, behind_nil] at ih ⊢
      split_ifs with hescaped
      · exact ih
      · simp only [isEscaped, Bool.or_eq_true, List.contains_iff_mem, beq_iff_eq, not_or] at hescaped
        have hlast := hreplace _ a matched hsome hescaped.1
        rw [behind]
        cases hr : (replace a).getLast? with
        | none => exact hescaped.2
        | some d => rwa [hr] at hlast
    · rw [behind_of_ne_nil _ hrest] at ih ⊢
      exact ih

/-- An annotation ends in a tag. -/
lemma Brackets.getLast?_ruby (b : Brackets) (base gloss : Text) :
    (b.ruby base gloss).getLast? = some '>' := by
  rw [ruby_eq, List.getLast?_append, List.getLast?_append, Tag.closing, List.getLast?_concat,
    Option.some_or, Option.some_or]

/-- Markup ends in a tag or in the text of its last segment. -/
lemma Brackets.getLast?_markup_ne_escape {b : Brackets} {segments : List Segment}
    (h : ∀ s ∈ segments, s.Over (· ≠ escapeChar)) :
    (b.markup segments).getLast? ≠ some escapeChar := by
  induction segments with
  | nil => simp
  | cons s rest ih =>
      have hs := h s (by simp)
      have hrest := ih fun s hs => h s (List.mem_cons_of_mem _ hs)
      rw [markup_cons, List.getLast?_append]
      cases hlast : (b.markup rest).getLast? with
      | some d => rwa [hlast] at hrest
      | none =>
          cases s with
          | literal u =>
              rw [Option.none_or, segment]
              exact fun hu => hs escapeChar (List.mem_of_getLast? hu) rfl
          | ruby base gloss =>
              rw [Option.none_or, segment, getLast?_ruby]
              simp [escapeChar]

/-! ## The passes -/

variable {aligned : Bool} {fallback : Brackets}

namespace Form

variable {f : Form}

/-- **A pass of a form is local** to both sides of a character that no occurrence holds. -/
theorem splitsAt_apply (hinner : ¬ isInner c) (hmarks : c ∉ f.marks) (hesc : c ≠ escapeChar) :
    SplitsAt c (f.apply aligned fallback) where
  append a t ha := by
    have hlocal : ∀ x, x ≠ [] → x <:+ a → f.find (x ++ c :: t) = f.find x :=
      fun x hx _ => find_append_cons hinner hmarks hx
    have hopening : c ≠ f.main.opening := fun h => hmarks (by simp [h, marks])
    have hfresh : some c ≠ some escapeChar := by simpa using hesc
    rw [apply_eq_pass, pass_append (isSearch_find f) none a hlocal,
      pass_cons (find_cons_of_ne hopening), pass_eq_pass_none (isSearch_find f) hfresh]
    rfl
  last a ha := by
    have hreplace : ∀ t o matched, f.find t = some (o, matched) → escapeChar ∉ matched →
        (fallback.markup (o.segments aligned)).getLast? ≠ some escapeChar := by
      intro t o matched h hmatched
      obtain ⟨rfl, _, _⟩ := find_eq_some h
      refine Brackets.getLast?_markup_ne_escape (o.over_segments aligned ?_ ?_)
      · rintro d hd rfl
        exact hmatched (by simp [write, hd])
      · rintro d hd rfl
        exact hmatched (by simp [write, hd])
    rw [← behind_none] at ha ⊢
    exact behind_pass_ne_escape (isSearch_find f) hreplace none a ha

end Form

namespace Brackets

variable {b : Brackets}

/-- **A pass of a pair is local** to both sides of a character that no word holds.  Such a character
may stand in front of a word. -/
theorem splitsAt_apply (hc : b.Separates c) (hesc : c ≠ escapeChar) :
    SplitsAt c (b.apply aligned fallback) where
  append a t ha := by
    have hlocal : ∀ x, x ≠ [] → x <:+ a → b.detect (x ++ c :: t) = b.detect x :=
      fun x hx _ => detect_append_cons hc hx
    have hfresh : some c ≠ some escapeChar := by simpa using hesc
    rw [← behind_none] at ha
    rw [apply_eq_pass, pass_append (isSearch_detect b) none a hlocal,
      pass_cons_of_not_logographic ha hc.logographic, pass_eq_pass_none (isSearch_detect b) hfresh]
    rfl
  last a ha := by
    have hreplace : ∀ t d matched, b.detect t = some (d, matched) → escapeChar ∉ matched →
        (replacement aligned fallback d).getLast? ≠ some escapeChar := by
      intro t d matched h hmatched
      obtain ⟨rfl, _, _⟩ := detect_eq_some h
      have hmarkup : (fallback.markup (d.segments aligned)).getLast? ≠ some escapeChar := by
        refine getLast?_markup_ne_escape (d.over_segments aligned ?_ ?_ ?_) <;> rintro e he rfl <;>
          exact hmatched (by simp [write, he])
      rw [replacement, List.getLast?_append]
      cases hlast : (fallback.markup (d.segments aligned)).getLast? with
      | some e => rwa [hlast] at hmarkup
      | none =>
          intro hboundary
          exact hmatched (by simp [write, List.mem_of_getLast? hboundary])
    rw [← behind_none] at ha ⊢
    exact behind_pass_ne_escape (isSearch_detect b) hreplace none a ha

end Brackets

/-! ## Conversions -/

/-- An ASCII character that no word and no gloss holds and that neither the options nor the standard
form are written with. -/
structure Options.Delimits (o : Options) (c : Char) : Prop where
  ascii : c ≤ '\x7f'
  word : ¬ isAsciiWord c
  standard : c ∉ ['.', '\\', '[', ']', '^', '(', ')']
  forms : c ∉ o.forms
  fallback : c ∉ o.fallbackBrackets
  pairs : c ∉ o.autoBracketSets

namespace Options.Delimits

variable {o : Options}

lemma not_isInner (hc : o.Delimits c) : ¬ isInner c := by
  simp [isInner, not_lt.2 hc.ascii, hc.word]

lemma ne_escape (hc : o.Delimits c) : c ≠ escapeChar := fun h => hc.standard (by simp [h, escapeChar])

lemma not_isSeparator (hc : o.Delimits c) : ¬ isSeparator c := by
  have hdot : c ≠ '.' := fun h => hc.standard (by simp [h])
  have hbeyond : ∀ s ∈ ['．', '。', '・'], c ≠ s := by
    rintro s hs rfl
    have hhigh : ∀ s ∈ ['．', '。', '・'], ¬ s ≤ '\x7f' := by simp
    exact hhigh c hs hc.ascii
  simp_all [isSeparator, separators]

lemma ne_of_not_ascii (hc : o.Delimits c) {d : Char} (hd : ¬ d ≤ '\x7f') : d ≠ c :=
  fun h => hd (h ▸ hc.ascii)

/-- The glyphs of the default brackets are no delimiters. -/
lemma ne_lenticular (hc : o.Delimits c) :
    Brackets.lenticular.opening ≠ c ∧ Brackets.lenticular.closing ≠ c :=
  ⟨hc.ne_of_not_ascii (by decide), hc.ne_of_not_ascii (by decide)⟩

lemma notMem_marks (hc : o.Delimits c) {f : Form} (hf : f ∈ o.activeForms) : c ∉ f.marks := by
  have hstandard : ∀ d ∈ Form.standard.marks, d ≠ c := by
    rintro d hd rfl
    have hlisted : Form.standard.marks ⊆ ['.', '\\', '[', ']', '^', '(', ')'] := by decide
    exact hc.standard (hlisted hd)
  exact fun h => over_activeForms (p := (· ≠ c)) (fun d hd heq => hc.forms (heq ▸ hd)) hstandard hf
    c h rfl

lemma ne_fallback (hc : o.Delimits c) : c ≠ o.fallback.opening ∧ c ≠ o.fallback.closing := by
  obtain ⟨hopening, hclosing⟩ := Brackets.over_ofText (p := (· ≠ c))
    (fun d hd heq => hc.fallback (heq ▸ hd)) hc.ne_lenticular.1 hc.ne_lenticular.2
  exact ⟨hopening.symm, hclosing.symm⟩

lemma separates (hc : o.Delimits c) {b : Brackets} (hb : b ∈ o.activePairs) : b.Separates c := by
  obtain ⟨hopening, hclosing⟩ := over_activePairs (p := (· ≠ c))
    (fun d hd heq => hc.pairs (heq ▸ hd)) hc.ne_lenticular.1 hc.ne_lenticular.2 hb
  exact {
    logographic := not_isLogographic_of_ascii hc.ascii
    annotation := not_isAnnotation_of_ascii hc.ascii
    gloss := by
      simp [Brackets.allowsInGloss, not_lt.2 hc.ascii, hc.word, hc.not_isSeparator]
    opening := hopening.symm
    closing := hclosing.symm }

end Options.Delimits

/-- **Conversions are local to segments.**  What a delimiter stands between is converted alone, by any
engines that calls have led to. -/
theorem Engine.render_append_cons {e e₁ e₂ : Engine} (he : e.Reachable) (he₁ : e₁.Reachable)
    (he₂ : e₂.Reachable) {o : Options} (hc : o.Delimits c) {a : Text}
    (ha : a.getLast? ≠ some escapeChar) (t : Text) :
    (e.render o (a ++ c :: t)).1 = (e₁.render o a).1 ++ c :: (e₂.render o t).1 := by
  have hforms : SplitsAt c fun t =>
      o.activeForms.foldl (fun t f => f.apply o.patternMatching o.fallback t) t :=
    .foldl fun f hf => Form.splitsAt_apply hc.not_isInner (hc.notMem_marks hf) hc.ne_escape
  have hpairs : SplitsAt c fun t =>
      o.activePairs.foldl (fun t b => b.apply o.patternMatching o.fallback t) t :=
    .foldl fun b hb => Brackets.splitsAt_apply (hc.separates hb) hc.ne_escape
  rw [he.render_eq, he₁.render_eq, he₂.render_eq, Options.render, convert, hforms.append a t ha,
    hpairs.append _ _ (hforms.last a ha),
    unescape_append_cons hc.ne_fallback.1 hc.ne_fallback.2, unescape_cons_of_ne hc.ne_escape]
  rfl

/-- A line feed between two lines, with a malformed form, pair and fallback.  The second line starts
with a word, which takes the line feed as the character in front of it. -/
theorem Engine.render_append_line :
    ∃ (o : Options) (a t : Text), o.forms = "broken|//:=:<>".toList ∧
      o.autoBracketSets = "\x7b|【】".toList ∧ a = "/記憶/=<きおく>は".toList ∧
      t = "明日【あす】".toList ∧ o.Delimits '\n' ∧ a.getLast? ≠ some escapeChar ∧
      (fresh.render o (a ++ '\n' :: t)).1 = (fresh.render o a).1 ++ '\n' :: (fresh.render o t).1 := by
  let o : Options := { Options.standard with
    forms := "broken|//:=:<>".toList
    autoBracketSets := "\x7b|【】".toList
    fallbackBrackets := "【".toList }
  have hc : o.Delimits '\n' := by
    refine ⟨by decide, by decide, by decide, by decide, by decide, by decide⟩
  have ha : "/記憶/=<きおく>は".toList.getLast? ≠ some escapeChar := by decide
  exact ⟨o, _, _, rfl, rfl, rfl, rfl, hc, ha,
    render_append_cons .fresh .fresh .fresh hc ha _⟩

end Furigana
