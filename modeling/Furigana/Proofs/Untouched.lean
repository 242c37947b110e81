import Mathlib
import Furigana.Engine
import Furigana.Proofs.Detection.Attachment
import Furigana.Proofs.Form.Separation
import Furigana.Proofs.Markdown.Escapes
import Furigana.Proofs.Nesting

/-!
# Text in which nothing is found

A text in which no form and no pair of the options finds anything is converted to itself, up to the
escapes of the fallback brackets.  In a document the text that is converted has backslashes put back
and is escaped for HTML, and neither makes an occurrence out of anything else, unless the glyphs of
the options are those that references are written with.

* `Form.exists_write_suffix`, `Brackets.exists_word_suffix` — what is found in escaped text stands
  in the text;
* `Options.FindsNothing`, `Options.SparesReferences` — the two conditions;
* `Options.findsNothing_of_lacks` — what a text may lack so that nothing is found in it;
* `Options.FindsNothing.render_eq` — what is left of such a text.
-/

namespace Furigana

open Text (IsSpecial escapeHtml)

variable {o : Options} {t w x raw plain : Text}

/-- A stretch without `&` at an end of escaped text stands in the text, unless that end begins
inside a reference. -/
lemma Text.exists_append_suffix_of_escapeHtml (hw : '&' ∉ w) (h : w ++ x <:+ escapeHtml t)
    (hinside : ∀ name u, w ++ x = name ++ ';' :: u → name.length ≤ 4 →
      ¬ ∀ c ∈ name, c ≤ '\x7f') :
    ∃ u, w ++ u <:+ t := by
  rcases suffix_escapeHtml h with ⟨u, hu, hwu⟩ | ⟨name, u, hname, hlength, hascii⟩
  · obtain ⟨v, rfl, _⟩ := exists_append_of_escapeHtml hw hwu.symm
    exact ⟨v, hu⟩
  · exact absurd hascii (hinside name _ hname hlength)

/-! ## What is found in escaped text -/

namespace Form

variable {f : Form} {occurrence : Occurrence} {matched : Text}

/-- Where something is found stand all marks of the form. -/
lemma marks_subset_of_find {r : Occurrence × Text} (hfind : f.find x = some r) : f.marks ⊆ x := by
  obtain ⟨o, matched⟩ := r
  obtain ⟨_, _, rest, rfl⟩ := find_eq_some hfind
  intro c hc
  simp only [marks, write, List.mem_append, List.mem_cons, List.cons_append] at hc ⊢
  tauto

/-- An occurrence that is found in escaped text stands in the text: it is too long for the inside of
a reference. -/
lemma exists_write_suffix (hand : '&' ∉ f.marks) (hsemicolon : ';' ∉ f.marks)
    (hx : x <:+ escapeHtml t) (hfind : f.find x = some (occurrence, matched)) :
    ∃ u, f.write occurrence ++ u <:+ t := by
  obtain ⟨_, ho, rest, rfl⟩ := find_eq_some hfind
  refine Text.exists_append_suffix_of_escapeHtml (notMem_write (by decide) hand ho) hx ?_
  intro name u hname hlength _
  obtain ⟨name', rfl, _⟩ := exists_append_of_notMem (notMem_write (by decide) hsemicolon ho) hname
  have hlong := six_le_length_write (f := f) ho
  rw [List.length_append] at hlength
  omega

end Form

namespace Brackets

variable {b : Brackets} {d : Detection} {matched : Text}

/-- Where a word is detected stand both glyphs and an ideograph. -/
lemma mem_of_detect {r : Detection × Text} (hfind : b.detect x = some r) :
    b.opening ∈ x ∧ b.closing ∈ x ∧ ∃ c ∈ x, isLogographic c := by
  obtain ⟨d, matched⟩ := r
  obtain ⟨_, hd, _, rest, rfl⟩ := detect_eq_some hfind
  obtain ⟨c, base, hbase⟩ := List.exists_cons_of_ne_nil hd.base_ne
  refine ⟨by simp [write], by simp [write], c, by simp [write, hbase], hd.base c (by simp [hbase])⟩

/-- A word as it is written, without the character in front of it, holds the glyphs and else what
words and glosses hold. -/
lemma notMem_write {c : Char} (hc : isInner c = false ∧ isSeparator c = false)
    (hopening : c ≠ b.opening) (hclosing : c ≠ b.closing) (hd : b.IsWord d)
    (hboundary : d.boundary = []) : c ∉ b.write d := by
  have hbase : c ∉ d.base :=
    notMem_of_isWordy (fun e he => isWordy_of_isLogographic (hd.base e he)) hc
  have hsuffix : c ∉ d.suffix :=
    notMem_of_isWordy (fun e he => isWordy_of_kana (hd.suffix e he)) hc
  have hgloss : c ∉ d.gloss :=
    notMem_of_isWordy (fun e he => isWordy_of_allowsInGloss (hd.gloss e he)) hc
  simp [write, hboundary, hbase, hsuffix, hgloss, hopening, hclosing]

/-- A word that is found in escaped text stands in the text: an ideograph does not begin inside a
reference. -/
lemma exists_word_suffix (hopening : '&' ≠ b.opening) (hclosing : '&' ≠ b.closing)
    (hx : x <:+ escapeHtml t) (hfind : b.detect x = some (d, matched)) :
    ∃ u, b.write { d with boundary := [] } ++ u <:+ t := by
  obtain ⟨_, hd, _, rest, rfl⟩ := detect_eq_some hfind
  obtain ⟨c, base, hbase⟩ := List.exists_cons_of_ne_nil hd.base_ne
  have hc := hd.base c (by simp [hbase])
  have hx' : b.write { d with boundary := [] } ++ rest <:+ escapeHtml t := by
    refine List.IsSuffix.trans ?_ hx
    rw [write_eq_boundary_append b d, List.append_assoc]
    exact List.suffix_append d.boundary _
  refine Text.exists_append_suffix_of_escapeHtml
    (notMem_write (by decide) hopening hclosing (hd.withBoundary []) rfl) hx' ?_
  intro name u hname _ hascii
  rw [write_append, List.nil_append, hbase, List.cons_append] at hname
  cases name with
  | nil =>
      obtain ⟨rfl, _⟩ := List.cons.inj hname
      exact not_isLogographic_of_ascii (by decide) hc
  | cons e name =>
      obtain ⟨rfl, _⟩ := List.cons.inj hname
      exact not_isLogographic_of_ascii (hascii c (by simp)) hc

end Brackets

/-! ## Options -/

namespace Options

/-- No form and no pair of the options finds anything anywhere in the text. -/
structure FindsNothing (o : Options) (t : Text) : Prop where
  forms : ∀ f ∈ o.activeForms, ∀ x, x <:+ t → f.find x = none
  pairs : ∀ b ∈ o.activePairs, ∀ x, x <:+ t → b.detect x = none

/-- No form and no pair of the options uses the marks of references, and no fallback glyph is
escaped for HTML. -/
structure SparesReferences (o : Options) : Prop where
  forms : ∀ f ∈ o.activeForms, '&' ∉ f.marks ∧ ';' ∉ f.marks
  pairs : ∀ b ∈ o.activePairs, '&' ≠ b.opening ∧ '&' ≠ b.closing
  opening : ¬ IsSpecial o.fallback.opening
  closing : ¬ IsSpecial o.fallback.closing

/-- **Text without notation.**  Nothing is found in a text that lacks a mark of every form, and of
every pair a glyph, or ideographs. -/
theorem findsNothing_of_lacks (hforms : ∀ f ∈ o.activeForms, ∃ c ∈ f.marks, c ∉ t)
    (hpairs : ∀ b ∈ o.activePairs, b.opening ∉ t ∨ b.closing ∉ t ∨ ∀ c ∈ t, ¬ isLogographic c) :
    o.FindsNothing t where
  forms := by
    intro f hf x hx
    obtain ⟨c, hc, hct⟩ := hforms f hf
    cases hfind : f.find x with
    | none => rfl
    | some r => exact absurd (hx.subset (Form.marks_subset_of_find hfind hc)) hct
  pairs := by
    intro b hb x hx
    cases hfind : b.detect x with
    | none => rfl
    | some r =>
        exfalso
        obtain ⟨hopening, hclosing, c, hc, hlog⟩ := Brackets.mem_of_detect hfind
        rcases hpairs b hb with hlacks | hlacks | hlacks
        · exact hlacks (hx.subset hopening)
        · exact hlacks (hx.subset hclosing)
        · exact hlacks c (hx.subset hc) hlog

/-- Nothing is found in text without opening glyphs. -/
lemma findsNothing_of_notMem (hforms : ∀ f ∈ o.activeForms, f.main.opening ∉ t)
    (hpairs : ∀ b ∈ o.activePairs, b.opening ∉ t) : o.FindsNothing t :=
  findsNothing_of_lacks (fun f hf => ⟨f.main.opening, by simp [Form.marks], hforms f hf⟩)
    fun b hb => Or.inl (hpairs b hb)

/-- A form that finds nothing in a text leaves the text with backslashes put back and escaped for
HTML. -/
lemma FindsNothing.apply_form (h : o.FindsNothing plain) (ho : o.SparesReferences)
    (hback : Markdown.PutBack raw plain) {f : Form} (hf : f ∈ o.activeForms) :
    f.apply o.patternMatching o.fallback (escapeHtml raw) = escapeHtml raw := by
  refine pass_eq_self (Form.isSearch_find f) none fun x hx occurrence matched hfind => ?_
  obtain ⟨rfl, hinner, _⟩ := Form.find_eq_some hfind
  by_contra hesc
  obtain ⟨u, hu⟩ := Form.exists_write_suffix (ho.forms f hf).1 (ho.forms f hf).2 hx hfind
  obtain ⟨v, hv⟩ := hback.exists_append_suffix hesc hu
  exact Form.find_write_ne_none hinner (h.forms f hf _ hv)

/-- A pair does the same. -/
lemma FindsNothing.apply_pair (h : o.FindsNothing plain) (ho : o.SparesReferences)
    (hback : Markdown.PutBack raw plain) {b : Brackets} (hb : b ∈ o.activePairs) :
    b.apply o.patternMatching o.fallback (escapeHtml raw) = escapeHtml raw := by
  refine pass_eq_self (Brackets.isSearch_detect b) none fun x hx d matched hfind => ?_
  obtain ⟨rfl, hd, _⟩ := Brackets.detect_eq_some hfind
  by_contra hesc
  obtain ⟨u, hu⟩ := Brackets.exists_word_suffix (ho.pairs b hb).1 (ho.pairs b hb).2 hx hfind
  have hword : escapeChar ∉ b.write { d with boundary := [] } := fun hmem =>
    hesc (by simpa [Brackets.write] using Or.inr hmem)
  obtain ⟨v, hv⟩ := hback.exists_append_suffix hword hu
  obtain ⟨y, hy, hfound⟩ := Brackets.exists_detect_of_attaches
    (Brackets.attaches_write (hd.withBoundary []) v)
  exact hfound (h.pairs b hb y (hy.trans hv))

/-- A text that every pass leaves as it is. -/
lemma render_of_apply_eq_self
    (hforms : ∀ f ∈ o.activeForms, f.apply o.patternMatching o.fallback t = t)
    (hpairs : ∀ b ∈ o.activePairs, b.apply o.patternMatching o.fallback t = t) :
    o.render t = unescape o.fallback t := by
  have hform : o.activeForms.foldl (fun t f => f.apply o.patternMatching o.fallback t) t = t :=
    List.foldlRecOn o.activeForms _ (motive := (· = t)) rfl fun u hu f hf => hu ▸ hforms f hf
  have hpair : o.activePairs.foldl (fun t b => b.apply o.patternMatching o.fallback t) t = t :=
    List.foldlRecOn o.activePairs _ (motive := (· = t)) rfl fun u hu b hb => hu ▸ hpairs b hb
  rw [render, convert, hform, hpair]

/-- Text without escapes in which nothing is found stays. -/
lemma FindsNothing.render_eq_self (h : o.FindsNothing t) (ht : escapeChar ∉ t) : o.render t = t := by
  have hforms : ∀ f ∈ o.activeForms, f.apply o.patternMatching o.fallback t = t := fun f hf =>
    pass_eq_self (Form.isSearch_find f) none fun x hx a matched hfind =>
      absurd (hfind.symm.trans (h.forms f hf x hx)) (by simp)
  have hpairs : ∀ b ∈ o.activePairs, b.apply o.patternMatching o.fallback t = t := fun b hb =>
    pass_eq_self (Brackets.isSearch_detect b) none fun x hx a matched hfind =>
      absurd (hfind.symm.trans (h.pairs b hb x hx)) (by simp)
  rw [render_of_apply_eq_self hforms hpairs, unescape_eq_self ht]

/-- **Text in which nothing is found.**  With backslashes put back and escaped for HTML it is
converted to itself, with the escapes of the fallback brackets resolved. -/
theorem FindsNothing.render_eq (h : o.FindsNothing plain) (ho : o.SparesReferences)
    (hback : Markdown.PutBack raw plain) :
    o.render (escapeHtml raw) = escapeHtml (unescape o.fallback raw) := by
  rw [render_of_apply_eq_self (fun f hf => h.apply_form ho hback hf)
    fun b hb => h.apply_pair ho hback hb, Text.unescape_escapeHtml ho.opening ho.closing]

end Options

end Furigana
