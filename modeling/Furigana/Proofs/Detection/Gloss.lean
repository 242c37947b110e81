import Mathlib
import Furigana.Proofs.Conservation
import Furigana.Proofs.Detection.Attachment

/-!
# Brackets inside a gloss

A detected gloss holds no character beyond ASCII that is a glyph of the pair.  A glyph that is an
ASCII letter or digit, the underscore or a separator may stand in it all the same, and if both
glyphs are like that, one gloss can reach from the opening glyph of one word to the closing glyph of
a later one.

* `Finds`, `Joins` — what a scan finds, and a gloss that holds the end of one and the start of
  another one;
* `allowsInGloss_of_finds`, `exists_finds_gloss` — the characters that occur in glosses;
* **`notMem_gloss_iff`** — which pairs never occur in their glosses, and which never join two.
-/

namespace Furigana.Brackets

variable {b : Brackets} {c g : Char} {t : Text} {d : Detection} {matched : Text}

/-- Whether a scan of the text finds the word, escaped or not. -/
def Finds (b : Brackets) (t : Text) (d : Detection) : Prop :=
  ∃ escaped matched, .found escaped matched d ∈ b.scan t

/-- Whether the gloss of a word holds the end of one gloss in brackets and the start of another. -/
def Joins (b : Brackets) (d : Detection) : Prop :=
  ∃ front between back, front ≠ [] ∧ back ≠ [] ∧
    d.gloss = front ++ b.closing :: (between ++ b.opening :: back)

/-! ## The characters of glosses -/

lemma allowsInGloss_of_finds (h : b.Finds t d) : ∀ c ∈ d.gloss, b.allowsInGloss c := by
  obtain ⟨escaped, matched, hmem⟩ := h
  obtain ⟨rest, hfind⟩ := (scans_scan (isSearch_detect b) none t).exists_find_eq_some hmem
  obtain ⟨_, hd, _⟩ := detect_eq_some hfind
  exact hd.gloss

/-- What is detected at the start of a text is found in it. -/
lemma finds_of_detect (h : b.detect t = some (d, matched)) : b.Finds t d := by
  obtain ⟨hne, rest, rfl⟩ := isSearch_detect b _ _ _ h
  exact ⟨_, _, by rw [scan, scan_append_found h hne]; exact List.mem_cons_self⟩

/-- Every character that may stand in a gloss does so in some text. -/
lemma exists_finds_gloss (hg : b.allowsInGloss g) : ∃ t d, b.Finds t d ∧ d.gloss = [g] := by
  have hideograph : isLogographic '字' := by decide
  have hglosses : b.Glosses [b.opening, g, b.closing] :=
    ⟨[], [g], [], rfl, by simp, by simp, by simpa using hg⟩
  obtain ⟨⟨d, matched⟩, hfind⟩ :=
    Option.ne_none_iff_exists'.1 (detect_cons_ne_none hideograph hglosses)
  refine ⟨_, d, finds_of_detect hfind, ?_⟩
  obtain ⟨_, hd, _, rest, ht⟩ := detect_eq_some hfind
  -- there is room for one ideograph and one character of the gloss only
  have hlength := congrArg List.length ht
  have hbase := List.length_pos_iff.2 hd.base_ne
  have hgloss := List.length_pos_iff.2 hd.gloss_ne
  simp only [write, List.length_append, List.length_cons, List.length_nil] at hlength
  obtain ⟨x, hx⟩ := List.length_eq_one_iff.1 (show d.base.length = 1 by omega)
  obtain ⟨y, hy⟩ := List.length_eq_one_iff.1 (show d.gloss.length = 1 by omega)
  have hboundary : d.boundary = [] := List.length_eq_zero_iff.1 (by omega)
  have hsuffix : d.suffix = [] := List.length_eq_zero_iff.1 (by omega)
  rw [write, hx, hy, hboundary, hsuffix] at ht
  obtain ⟨-, rfl, -⟩ : '字' = x ∧ g = y ∧ rest = [] := by simpa using ht
  exact hy

/-- A word that ends the text is found as it is written, even if its gloss holds glyphs. -/
lemma finds_write (hd : b.IsWord d) (hboundary : d.boundary = [])
    (hopening : ¬ isLogographic b.opening ∧ ¬ isAnnotation b.opening) : b.Finds (b.write d) d := by
  have hgloss : b.findGloss (b.opening :: (d.gloss ++ b.closing :: [])) = some d.gloss :=
    findGloss_write hd.gloss_ne hd.gloss (Or.inr (by simp))
  have hword := findWord_of_findGloss hd hboundary hopening hgloss
  rw [List.append_nil] at hword
  exact finds_of_detect (detect_of_findWord hword)

/-! ## Glyphs of the pair -/

lemma ascii_of_isAsciiWord (h : isAsciiWord c) : c ≤ '\x7f' := by
  simp only [isAsciiWord, Text.isAsciiAlphanumeric, Bool.or_eq_true, Bool.and_eq_true,
    decide_eq_true_eq, beq_iff_eq, Char.le_def, UInt32.le_iff_toNat_le] at h ⊢
  rcases h with h | rfl
  · simp only [Char.reduceVal, UInt32.reduceToNat] at h ⊢
    omega
  · decide

/-- What may stand in every gloss is neither an ideograph nor kana. -/
lemma not_isLogographic_of_isAsciiWord_or_isSeparator (h : isAsciiWord c ∨ isSeparator c) :
    ¬ isLogographic c ∧ ¬ isAnnotation c := by
  rcases h with hword | hseparator
  · have hascii := ascii_of_isAsciiWord hword
    exact ⟨not_isLogographic_of_ascii hascii, not_isAnnotation_of_ascii hascii⟩
  · have hglyph : c = '.' ∨ c = '．' ∨ c = '。' ∨ c = '・' := by
      simpa [isSeparator, separators] using hseparator
    rcases hglyph with rfl | rfl | rfl | rfl <;> decide

/-- Two glyphs that may stand in a gloss may end one there and start another. -/
lemma exists_finds_joins (h : ∀ g ∈ b.toText, isAsciiWord g ∨ isSeparator g) :
    ∃ t d, b.Finds t d ∧ b.Joins d := by
  have hopening : b.opening ∈ b.toText := by simp [toText]
  have hclosing : b.closing ∈ b.toText := by simp [toText]
  let d : Detection := ⟨[], ['字'], [], [b.closing, b.closing, b.opening, b.opening]⟩
  have hd : b.IsWord d :=
    { base_ne := by simp [d]
      gloss_ne := by simp [d]
      base := by simp [d]; decide
      suffix := by simp [d]
      gloss := by
        simp [d, (allowsInGloss_glyph_iff hopening).2 (h _ hopening),
          (allowsInGloss_glyph_iff hclosing).2 (h _ hclosing)] }
  refine ⟨b.write d, d, finds_write hd rfl ?_, [b.closing], [], [b.opening], by simp, by simp, rfl⟩
  exact not_isLogographic_of_isAsciiWord_or_isSeparator (h _ hopening)

/-- **Glyphs in glosses.**  Whether a glyph of the pair stands in some gloss that is found depends on
the glyph alone: it does so in no text exactly if it is neither an ASCII letter or digit, nor the
underscore, nor a separator.  One such glyph is enough to keep glosses apart, and without one there
is a text in which two glosses are found as one. -/
theorem notMem_gloss_iff (b : Brackets) :
    (∀ g ∈ b.toText, (∀ t d, b.Finds t d → g ∉ d.gloss) ↔ ¬ isAsciiWord g ∧ ¬ isSeparator g) ∧
    ((∀ t d, b.Finds t d → ¬ b.Joins d) ↔
      ∃ g ∈ b.toText, ¬ isAsciiWord g ∧ ¬ isSeparator g) := by
  have hglyph : ∀ g ∈ b.toText,
      (∀ t d, b.Finds t d → g ∉ d.gloss) ↔ ¬ isAsciiWord g ∧ ¬ isSeparator g := by
    intro g hg
    rw [← not_or, ← allowsInGloss_glyph_iff hg]
    constructor
    · intro h hallowed
      obtain ⟨t, d, hfinds, hgloss⟩ := exists_finds_gloss hallowed
      exact h t d hfinds (by simp [hgloss])
    · intro h t d hfinds hmem
      exact h (allowsInGloss_of_finds hfinds g hmem)
  refine ⟨hglyph, ?_, ?_⟩
  · intro h
    by_contra hnone
    have hboth : ∀ g ∈ b.toText, isAsciiWord g ∨ isSeparator g := by
      intro g hg
      by_contra hspared
      exact hnone ⟨g, hg, not_or.1 hspared⟩
    obtain ⟨t, d, hfinds, hjoins⟩ := exists_finds_joins hboth
    exact h t d hfinds hjoins
  · rintro ⟨g, hg, hspared⟩ t d hfinds ⟨front, between, back, _, _, hgloss⟩
    have hnot := (hglyph g hg).2 hspared t d hfinds
    have hboth : g = b.opening ∨ g = b.closing := by simpa [toText] using hg
    rcases hboth with rfl | rfl <;> simp [hgloss] at hnot

/-- A pair of which only the opening glyph may stand in a gloss. -/
theorem notMem_gloss_of_one_glyph :
    ∃ b : Brackets, b = ⟨'_', '】'⟩ ∧ b.closing ∈ b.toText ∧ ¬ isAsciiWord b.closing ∧
      ¬ isSeparator b.closing ∧ (∀ t d, b.Finds t d → b.closing ∉ d.gloss) ∧
      (∀ t d, b.Finds t d → ¬ b.Joins d) ∧ ¬ ∀ t d, b.Finds t d → b.opening ∉ d.gloss := by
  let b : Brackets := ⟨'_', '】'⟩
  have hmem : b.closing ∈ b.toText := by simp [toText]
  have hword : ¬ isAsciiWord b.closing := by decide
  have hseparator : ¬ isSeparator b.closing := by decide
  obtain ⟨hglyph, hjoins⟩ := notMem_gloss_iff b
  refine ⟨b, rfl, hmem, hword, hseparator, (hglyph _ hmem).2 ⟨hword, hseparator⟩,
    hjoins.2 ⟨_, hmem, hword, hseparator⟩, fun h => ?_⟩
  have hspared := (hglyph b.opening (by simp [toText])).1 h
  exact hspared.1 (by decide)

/-- Between underscores two glossed words are found as one, with the second word in the gloss of the
first. -/
theorem finds_joined_by_underscores :
    ∃ (b : Brackets) (t : Text) (d : Detection), b = ⟨'_', '_'⟩ ∧
      t = "明日_あす_と今日_きょう_".toList ∧ b.Finds t d ∧ b.opening ∈ d.gloss ∧
      b.closing ∈ d.gloss ∧ b.Joins d ∧
      b.apply true lenticular t = lenticular.ruby "明日".toList "あす_と今日_きょう".toList := by
  let b : Brackets := ⟨'_', '_'⟩
  let d : Detection := ⟨[], "明日".toList, [], "あす_と今日_きょう".toList⟩
  have hfind : b.detect "明日_あす_と今日_きょう_".toList
      = some (d, "明日_あす_と今日_きょう_".toList) := by decide +kernel
  refine ⟨b, _, d, rfl, rfl, finds_of_detect hfind, by decide, by decide, ?_, by decide +kernel⟩
  exact ⟨"あす".toList, "と今日".toList, "きょう".toList, by decide, by decide, by decide⟩

end Furigana.Brackets
