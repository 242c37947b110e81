import Mathlib
import Furigana.Escape

/-!
# Resolving escapes

`unescape` drops escapes in front of the two glyphs of a pair and changes nothing else.  The lemmas
here say how it passes over a text, and between which characters a text may be cut.
-/

namespace Furigana

variable {b : Brackets} {c : Char}

lemma unescape_cons_of_ne (hc : c ≠ escapeChar) (t : Text) :
    unescape b (c :: t) = c :: unescape b t := by
  cases t with
  | nil => simp [unescape]
  | cons d t => rw [unescape, if_neg fun h => hc h.1]

/-- An escape that stands before none of the glyphs stays. -/
lemma unescape_escape_cons_of_ne (hopening : c ≠ b.opening) (hclosing : c ≠ b.closing) (t : Text) :
    unescape b (escapeChar :: c :: t) = escapeChar :: unescape b (c :: t) := by
  rw [unescape, if_neg fun h => h.2.elim hopening hclosing]

/-- An escape before one of the glyphs disappears. -/
lemma unescape_escape_glyph (hc : c = b.opening ∨ c = b.closing) (t : Text) :
    unescape b (escapeChar :: c :: t) = unescape b (c :: t) := by
  rw [unescape, if_pos ⟨rfl, hc⟩]

/-- Text without escapes stays. -/
lemma unescape_append_plain {u : Text} (hu : escapeChar ∉ u) (t : Text) :
    unescape b (u ++ t) = u ++ unescape b t := by
  induction u with
  | nil => rfl
  | cons d u ih =>
      have hd : d ≠ escapeChar := fun h => hu (h ▸ List.mem_cons_self)
      rw [List.cons_append, unescape_cons_of_ne hd, ih fun h => hu (List.mem_cons_of_mem _ h),
        List.cons_append]

lemma unescape_eq_self {t : Text} (ht : escapeChar ∉ t) : unescape b t = t := by
  simpa [unescape] using unescape_append_plain (b := b) ht []

/-- In front of a character that is none of the glyphs a text may be cut. -/
lemma unescape_append_cons (hopening : c ≠ b.opening) (hclosing : c ≠ b.closing) (u t : Text) :
    unescape b (u ++ c :: t) = unescape b u ++ unescape b (c :: t) := by
  fun_induction unescape b u with
  | case1 => rfl
  | case2 d =>
      by_cases hd : d = escapeChar
      · subst hd
        exact unescape_escape_cons_of_ne hopening hclosing t
      · exact unescape_cons_of_ne hd (c :: t)
  | case3 d e u h ih =>
      rw [List.cons_append, List.cons_append, unescape, if_pos h]
      exact ih
  | case4 d e u h ih =>
      rw [List.cons_append, List.cons_append, unescape, if_neg h, List.cons_append]
      exact congrArg _ ih

/-- Characters are dropped and nothing else happens. -/
lemma unescape_sublist (b : Brackets) (t : Text) : (unescape b t).Sublist t := by
  fun_induction unescape b t with
  | case1 => exact List.Sublist.refl _
  | case2 => exact List.Sublist.refl _
  | case3 d e t _ ih => exact ih.trans (List.sublist_cons_self d _)
  | case4 d e t _ ih => exact ih.cons_cons d

end Furigana
