import Mathlib
import Furigana.Proofs.Escape
import Furigana.Text.Html

/-!
# Text escaped for HTML

`Text.escapeHtml` replaces four characters by references and leaves the others alone.

* `escapeHtmlChar_of_special`, `escapeHtmlChar_of_not_special` — what becomes of a character;
* `exists_append_of_escapeHtml` — a start of escaped text without `&` is a start of the text;
* `escapeHtml_injective` — escaped text can be read in one way only;
* `unescape_escapeHtml` — escapes in front of glyphs that are not special may be resolved before or
  after it.
-/

namespace Furigana.Text

variable {c : Char} {t u m r : Text}

/-- A character that escaped text does not hold as it is. -/
def IsSpecial (c : Char) : Prop := c = '&' ∨ c = '<' ∨ c = '>' ∨ c = '"'

instance : DecidablePred IsSpecial := fun c =>
  inferInstanceAs (Decidable (c = '&' ∨ c = '<' ∨ c = '>' ∨ c = '"'))

lemma not_isSpecial_escape : ¬ IsSpecial escapeChar := by decide

/-- The names that references are written with. -/
def referenceNames : List Text :=
  [['a', 'm', 'p'], ['l', 't'], ['g', 't'], ['q', 'u', 'o', 't']]

@[simp] lemma escapeHtml_nil : escapeHtml [] = [] := rfl

lemma escapeHtml_cons (c : Char) (t : Text) :
    escapeHtml (c :: t) = escapeHtmlChar c ++ escapeHtml t := rfl

@[simp] lemma escapeHtml_append (t u : Text) :
    escapeHtml (t ++ u) = escapeHtml t ++ escapeHtml u := List.flatMap_append

lemma escapeHtmlChar_of_not_special (h : ¬ IsSpecial c) : escapeHtmlChar c = [c] := by
  simp only [IsSpecial, not_or] at h
  obtain ⟨hand, hlt, hgt, hquote⟩ := h
  calc escapeHtmlChar c = escapeBodyChar c := escapeHtmlChar.eq_2 c hquote
    _ = [c] := escapeBodyChar.eq_4 c hand hlt hgt

/-- A special character becomes a reference. -/
lemma escapeHtmlChar_of_special (h : IsSpecial c) :
    ∃ name ∈ referenceNames, escapeHtmlChar c = '&' :: (name ++ [';']) := by
  rcases h with rfl | rfl | rfl | rfl
  · exact ⟨['a', 'm', 'p'], by decide, rfl⟩
  · exact ⟨['l', 't'], by decide, rfl⟩
  · exact ⟨['g', 't'], by decide, rfl⟩
  · exact ⟨['q', 'u', 'o', 't'], by decide, rfl⟩

/-- References are written without the escape. -/
lemma escape_notMem_escapeHtmlChar (hc : c ≠ escapeChar) : escapeChar ∉ escapeHtmlChar c := by
  by_cases h : IsSpecial c
  · rcases h with rfl | rfl | rfl | rfl <;> decide
  · rw [escapeHtmlChar_of_not_special h]
    simpa using hc.symm

lemma escapeHtml_cons_of_not_special (h : ¬ IsSpecial c) (t : Text) :
    escapeHtml (c :: t) = c :: escapeHtml t := by
  rw [escapeHtml_cons, escapeHtmlChar_of_not_special h, List.singleton_append]

/-- Text without special characters stays. -/
lemma escapeHtml_eq_self (h : ∀ c ∈ t, ¬ IsSpecial c) : escapeHtml t = t := by
  induction t with
  | nil => rfl
  | cons c t ih =>
      rw [escapeHtml_cons_of_not_special (h c (by simp)),
        ih fun d hd => h d (List.mem_cons_of_mem _ hd)]

/-- Of the special characters escaped text holds only the one that references begin with. -/
lemma notMem_escapeHtml (hc : IsSpecial c) (hne : c ≠ '&') (t : Text) : c ∉ escapeHtml t := by
  intro h
  obtain ⟨d, _, hd⟩ := List.mem_flatMap.1 h
  by_cases hspecial : IsSpecial d
  · obtain ⟨name, hname, hreference⟩ := escapeHtmlChar_of_special hspecial
    have hplain : ∀ name ∈ referenceNames, ∀ e ∈ name, ¬ IsSpecial e := by
      simp [referenceNames, IsSpecial]
    rw [hreference, List.mem_cons, List.mem_append, List.mem_singleton] at hd
    rcases hd with rfl | hd | rfl
    · exact hne rfl
    · exact hplain name hname c hd hc
    · exact absurd hc (by decide)
  · rw [escapeHtmlChar_of_not_special hspecial, List.mem_singleton] at hd
    exact hspecial (hd ▸ hc)

/-- A start of escaped text without `&` is a start of the text. -/
lemma exists_append_of_escapeHtml (hm : '&' ∉ m) (h : escapeHtml t = m ++ r) :
    ∃ u, t = m ++ u ∧ escapeHtml u = r ∧ ∀ c ∈ m, ¬ IsSpecial c := by
  induction m generalizing t with
  | nil => exact ⟨t, rfl, h, by simp⟩
  | cons d m ih =>
      simp only [List.mem_cons, not_or] at hm
      cases t with
      | nil => simp at h
      | cons c t =>
          by_cases hspecial : IsSpecial c
          · obtain ⟨name, _, hname⟩ := escapeHtmlChar_of_special hspecial
            rw [escapeHtml_cons, hname] at h
            exact absurd (List.cons.inj h).1 hm.1
          · rw [escapeHtml_cons_of_not_special hspecial] at h
            obtain ⟨rfl, htail⟩ := List.cons.inj h
            obtain ⟨u, rfl, hu, hplain⟩ := ih hm.2 htail
            exact ⟨u, rfl, hu, by simpa using ⟨hspecial, hplain⟩⟩

/-- The ends of a text behind a name: they begin in the name or behind it. -/
lemma suffix_name_append {name x : Text} (h : x <:+ name ++ r) :
    (∃ rest, rest <:+ name ∧ x = rest ++ r) ∨ x <:+ r := by
  induction name with
  | nil => exact Or.inr h
  | cons c name ih =>
      rcases List.suffix_cons_iff.1 h with rfl | h
      · exact Or.inl ⟨c :: name, List.suffix_rfl, rfl⟩
      · exact (ih h).imp_left fun ⟨rest, hrest, hx⟩ => ⟨rest, hrest.trans (List.suffix_cons c name), hx⟩

/-- The ends of a text behind what a character is escaped to: everything, what begins inside a
reference, or what begins behind it. -/
lemma suffix_escapeHtmlChar_append {x : Text} (h : x <:+ escapeHtmlChar c ++ r) :
    x = escapeHtmlChar c ++ r ∨
      (∃ name, x = name ++ ';' :: r ∧ name.length ≤ 4 ∧ ∀ c ∈ name, c ≤ '\x7f') ∨ x <:+ r := by
  by_cases hc : IsSpecial c
  · obtain ⟨name, hname, hreference⟩ := escapeHtmlChar_of_special hc
    have hascii : ∀ name ∈ referenceNames, name.length ≤ 4 ∧ ∀ c ∈ name, c ≤ '\x7f' := by
      simp [referenceNames]
    have hcons : '&' :: (name ++ [';']) ++ r = '&' :: (name ++ ';' :: r) := by simp
    rw [hreference, hcons] at h ⊢
    refine (List.suffix_cons_iff.1 h).imp_right fun h => ?_
    rcases suffix_name_append h with ⟨rest, hrest, rfl⟩ | h
    · exact Or.inl ⟨rest, rfl, hrest.length_le.trans (hascii name hname).1,
        fun c hmem => (hascii name hname).2 c (hrest.mem hmem)⟩
    · refine (List.suffix_cons_iff.1 h).imp_left fun h => ⟨[], h, by simp, by simp⟩
  · rw [escapeHtmlChar_of_not_special hc] at h ⊢
    exact (List.suffix_cons_iff.1 h).imp_right Or.inr

/-- The ends of escaped text: an end of the text escaped, or one that begins inside a reference. -/
lemma suffix_escapeHtml {x : Text} (h : x <:+ escapeHtml t) :
    (∃ u, u <:+ t ∧ x = escapeHtml u) ∨
      ∃ name u, x = name ++ ';' :: escapeHtml u ∧ name.length ≤ 4 ∧ ∀ c ∈ name, c ≤ '\x7f' := by
  induction t with
  | nil => exact Or.inl ⟨[], List.suffix_rfl, by simpa using h⟩
  | cons c t ih =>
      rcases suffix_escapeHtmlChar_append h with hx | ⟨name, hname⟩ | hx
      · exact Or.inl ⟨c :: t, List.suffix_rfl, hx⟩
      · exact Or.inr ⟨name, t, hname⟩
      · exact (ih hx).imp_left fun ⟨u, hu, hxu⟩ => ⟨u, hu.trans (List.suffix_cons c t), hxu⟩

/-- No character is escaped to the start of what another one is escaped to. -/
lemma escapeHtmlChar_append_inj {d : Char} {x y : Text}
    (h : escapeHtmlChar c ++ x = escapeHtmlChar d ++ y) : c = d ∧ x = y := by
  by_cases hc : IsSpecial c
  · by_cases hd : IsSpecial d
    · rcases hc with rfl | rfl | rfl | rfl <;> rcases hd with rfl | rfl | rfl | rfl <;>
        simp_all [escapeHtmlChar, escapeBodyChar]
    · obtain ⟨name, _, hname⟩ := escapeHtmlChar_of_special hc
      rw [hname, escapeHtmlChar_of_not_special hd] at h
      exact absurd (Or.inl (List.cons.inj h).1.symm) hd
  · rw [escapeHtmlChar_of_not_special hc] at h
    by_cases hd : IsSpecial d
    · obtain ⟨name, _, hname⟩ := escapeHtmlChar_of_special hd
      rw [hname] at h
      exact absurd (Or.inl (List.cons.inj h).1) hc
    · rw [escapeHtmlChar_of_not_special hd] at h
      exact List.cons.inj h

/-- **Escaped text can be read in one way only.** -/
theorem escapeHtml_injective : Function.Injective escapeHtml := by
  have hne : ∀ (c : Char) (t : Text), escapeHtml (c :: t) ≠ [] := by
    intro c t h
    by_cases hc : IsSpecial c
    · obtain ⟨name, _, hname⟩ := escapeHtmlChar_of_special hc
      simp [escapeHtml_cons, hname] at h
    · simp [escapeHtml_cons_of_not_special hc] at h
  intro t
  induction t with
  | nil =>
      intro u h
      cases u with
      | nil => rfl
      | cons d u => exact absurd h.symm (hne d u)
  | cons c t ih =>
      intro u h
      cases u with
      | nil => exact absurd h (hne c t)
      | cons d u =>
          obtain ⟨rfl, htail⟩ := escapeHtmlChar_append_inj h
          rw [ih htail]

/-- What escaped text starts with: its first character or `&` in the place of a special one. -/
lemma exists_cons_escapeHtml (c : Char) (t : Text) :
    ∃ e u, escapeHtml (c :: t) = e :: u ∧ (e = c ∧ ¬ IsSpecial c ∨ e = '&' ∧ IsSpecial c) := by
  by_cases hc : IsSpecial c
  · obtain ⟨name, _, hreference⟩ := escapeHtmlChar_of_special hc
    exact ⟨'&', name ++ [';'] ++ escapeHtml t, by rw [escapeHtml_cons, hreference]; rfl,
      Or.inr ⟨rfl, hc⟩⟩
  · exact ⟨c, escapeHtml t, escapeHtml_cons_of_not_special hc t, Or.inl ⟨rfl, hc⟩⟩

/-- **Resolving escapes commutes with escaping for HTML**, if neither glyph is special. -/
theorem unescape_escapeHtml {b : Brackets} (hopening : ¬ IsSpecial b.opening)
    (hclosing : ¬ IsSpecial b.closing) (t : Text) :
    unescape b (escapeHtml t) = escapeHtml (unescape b t) := by
  have hcons : ∀ (c : Char) (u : Text), c ≠ escapeChar →
      unescape b (escapeHtmlChar c ++ u) = escapeHtmlChar c ++ unescape b u :=
    fun c u hc => unescape_append_plain (escape_notMem_escapeHtmlChar hc) u
  fun_induction unescape b t with
  | case1 => rfl
  | case2 c =>
      by_cases hc : c = escapeChar
      · subst hc
        rw [escapeHtml_cons_of_not_special not_isSpecial_escape]
        rfl
      · exact hcons c [] hc
  | case3 c d t h ih =>
      obtain ⟨rfl, hd⟩ := h
      have hglyph : ¬ IsSpecial d := by rcases hd with rfl | rfl <;> assumption
      rw [← ih, escapeHtml_cons_of_not_special not_isSpecial_escape,
        escapeHtml_cons_of_not_special hglyph, unescape_escape_glyph hd]
  | case4 c d t h ih =>
      rw [escapeHtml_cons c (unescape _ _), ← ih, escapeHtml_cons c]
      by_cases hc : c = escapeChar
      · -- what follows the escape is neither glyph, also when it is a reference
        subst hc
        have hd : d ≠ b.opening ∧ d ≠ b.closing :=
          ⟨fun heq => h ⟨rfl, Or.inl heq⟩, fun heq => h ⟨rfl, Or.inr heq⟩⟩
        obtain ⟨e, u, he, hne⟩ := exists_cons_escapeHtml d t
        have hglyph : e ≠ b.opening ∧ e ≠ b.closing := by
          rcases hne with ⟨rfl, _⟩ | ⟨rfl, _⟩
          · exact hd
          · exact ⟨fun heq => hopening (Or.inl heq.symm), fun heq => hclosing (Or.inl heq.symm)⟩
        rw [he, escapeHtmlChar_of_not_special not_isSpecial_escape]
        exact unescape_escape_cons_of_ne hglyph.1 hglyph.2 u
      · exact hcons c _ hc

end Furigana.Text
