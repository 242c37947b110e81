import Mathlib
import Furigana.Engine
import Furigana.Proofs.Form
import Furigana.Proofs.Segments

/-!
# Where the glyphs of forms and pairs come from

A form or a pair that is read has characters of the text it is written with, or is the standard one.
So a class that holds the standard glyphs and all characters of the options holds every glyph that a
conversion works with.
-/

namespace Furigana

variable {p : Char → Prop}

namespace Brackets

lemma over_ofText {t : Text} (h : ∀ c ∈ t, p c) (hopening : p lenticular.opening)
    (hclosing : p lenticular.closing) : p (ofText t).opening ∧ p (ofText t).closing := by
  rw [ofText]
  cases hread : ofText? t with
  | none => exact ⟨hopening, hclosing⟩
  | some b =>
      obtain rfl := ofText?_eq_some_iff.1 hread
      exact ⟨h _ (by simp [toText]), h _ (by simp [toText])⟩

end Brackets

namespace Form

/-- The marks of a form are characters that it is written with. -/
lemma marks_subset_of_ofText? {t : Text} {f : Form} (h : ofText? t = some f) : f.marks ⊆ t := by
  rw [ofText?] at h
  split at h
  · rename_i main separator gloss hpieces
    have hpart : ∀ part ∈ [main, separator, gloss], part ⊆ t := by
      intro part hpart
      rw [← hpieces] at hpart
      exact (Text.infix_of_mem_pieces hpart).subset
    split at h
    · rename_i m g hm hg
      obtain rfl := Option.some.inj h
      rw [Brackets.ofText?_eq_some_iff] at hm hg
      intro c hc
      have hmem : c ∈ main ∨ c ∈ separator ∨ c ∈ gloss := by
        simp only [marks, middle, hm, hg, Brackets.toText, List.mem_append, List.mem_cons,
          List.not_mem_nil, or_false] at hc ⊢
        tauto
      rcases hmem with hmem | hmem | hmem
      · exact hpart main (by simp) hmem
      · exact hpart separator (by simp) hmem
      · exact hpart gloss (by simp) hmem
    · exact absurd h (by simp)
  · exact absurd h (by simp)

lemma over_ofText {t : Text} (h : ∀ c ∈ t, p c) (hstandard : ∀ c ∈ standard.marks, p c) :
    ∀ c ∈ (ofText t).marks, p c := by
  rw [ofText]
  cases hread : ofText? t with
  | none => exact hstandard
  | some f => exact fun c hc => h c (marks_subset_of_ofText? hread hc)

end Form

namespace Options

variable {o : Options}

/-- A form in use is an entry of the list, read. -/
lemma exists_entry_of_mem_activeForms {f : Form} (hf : f ∈ o.activeForms) :
    ∃ entry ∈ Form.entries o.forms, Form.ofText entry = f := by
  rw [activeForms] at hf
  split_ifs at hf
  · exact List.mem_map.1 (List.mem_filter.1 hf).1
  · exact absurd hf (by simp)

/-- A pair in use is an entry of the list, read. -/
lemma exists_entry_of_mem_activePairs {b : Brackets} (hb : b ∈ o.activePairs) :
    ∃ entry ∈ Brackets.entries o.autoBracketSets, Brackets.ofText entry = b := by
  rw [activePairs] at hb
  split_ifs at hb
  · exact List.mem_map.1 hb
  · exact absurd hb (by simp)

lemma over_activeForms (h : ∀ c ∈ o.forms, p c) (hstandard : ∀ c ∈ Form.standard.marks, p c)
    {f : Form} (hf : f ∈ o.activeForms) : ∀ c ∈ f.marks, p c := by
  obtain ⟨entry, hentry, rfl⟩ := exists_entry_of_mem_activeForms hf
  exact Form.over_ofText (fun c hc => h c ((Text.infix_of_mem_pieces hentry).subset hc)) hstandard

lemma over_activePairs (h : ∀ c ∈ o.autoBracketSets, p c) (hopening : p Brackets.lenticular.opening)
    (hclosing : p Brackets.lenticular.closing) {b : Brackets} (hb : b ∈ o.activePairs) :
    p b.opening ∧ p b.closing := by
  obtain ⟨entry, hentry, rfl⟩ := exists_entry_of_mem_activePairs hb
  exact Brackets.over_ofText (fun c hc => h c ((Text.infix_of_mem_pieces hentry).subset hc))
    hopening hclosing

end Options

end Furigana
