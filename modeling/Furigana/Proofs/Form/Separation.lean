import Mathlib
import Furigana.Proofs.Form
import Furigana.Proofs.Markup

/-!
# Several occurrences of a form in one text

A text with several occurrences of a form, and plain text between them, is converted occurrence by
occurrence only if greedy search keeps them apart.  Words and glosses may hold every character
beyond ASCII, so the glyphs of a form such as `《》:・:〈〉` may stand inside a word as well.

* `Merges` — inner characters lead from the opening glyph of an occurrence to a closing glyph, so
  that the gloss before it can be continued into the occurrence;
* `Passage.Separated` — the form does not merge, or a character that is not inner stands in every
  gap between two occurrences;
* `apply_write_of_separated`, `apply_write_ne` — the passage is converted occurrence by occurrence
  exactly in this case;
* `separated_iff_apply_write` — both together.
-/

namespace Furigana.Form

variable {f : Form} {o : Occurrence} {t : Text}

/-! ## Forms that merge -/

/-- A closing gloss glyph may stand in a gloss, and inner characters lead from the opening glyph of
an occurrence to the next such glyph. -/
def Merges (f : Form) : Prop := isInner f.gloss.closing ∧ f.Reaches f.marks

@[simp] lemma reaches_closing_cons (f : Form) (t : Text) : f.Reaches (f.gloss.closing :: t) :=
  ⟨[], t, rfl, by simp⟩

lemma reaches_cons_of_ne {c : Char} (hc : c ≠ f.gloss.closing) :
    f.Reaches (c :: t) ↔ isInner c ∧ f.Reaches t := by
  constructor
  · rintro ⟨x, y, hxy, hx⟩
    cases x with
    | nil => exact absurd (List.cons.inj hxy).1 hc
    | cons d x =>
        obtain ⟨rfl, rfl⟩ := List.cons.inj hxy
        exact ⟨hx _ (by simp), x, y, rfl, fun e he => hx e (List.mem_cons_of_mem _ he)⟩
  · rintro ⟨hinner, x, y, rfl, hx⟩
    exact ⟨c :: x, y, rfl, by simpa using ⟨hinner, hx⟩⟩

lemma not_reaches_of_notMem (h : f.gloss.closing ∉ t) : ¬ f.Reaches t := by
  rintro ⟨x, y, rfl, _⟩
  exact h (by simp)

/-- Text without closing glyphs can be crossed if it is inner. -/
lemma reaches_append {u : Text} (hu : f.gloss.closing ∉ u) :
    f.Reaches (u ++ t) ↔ (∀ c ∈ u, isInner c) ∧ f.Reaches t := by
  induction u with
  | nil => simp
  | cons c u ih =>
      have hc : c ≠ f.gloss.closing := fun h => hu (h ▸ List.mem_cons_self)
      rw [List.cons_append, reaches_cons_of_ne hc, ih fun h => hu (List.mem_cons_of_mem _ h),
        List.forall_mem_cons, and_assoc]

/-- A word or a gloss makes no difference to what can be reached. -/
lemma reaches_skip {u : Text} (hu : ∀ c ∈ u, isInner c ∧ c ∉ f.marks) (m : Text) :
    f.Reaches (m ++ (u ++ t)) ↔ f.Reaches (m ++ t) := by
  have hclosing : f.gloss.closing ∉ u := fun h => (hu _ h).2 (by simp [marks])
  induction m with
  | nil =>
      rw [List.nil_append, List.nil_append, reaches_append hclosing]
      exact and_iff_right fun c hc => (hu c hc).1
  | cons c m ih =>
      by_cases hc : c = f.gloss.closing
      · subst hc
        simp
      · rw [List.cons_append, List.cons_append, reaches_cons_of_ne hc, reaches_cons_of_ne hc]
        exact and_congr_right fun _ => ih

/-- Nothing behind a closing glyph matters. -/
lemma reaches_closing (m : Text) :
    f.Reaches (m ++ f.gloss.closing :: t) ↔ f.Reaches (m ++ [f.gloss.closing]) := by
  induction m with
  | nil => simp
  | cons c m ih =>
      by_cases hc : c = f.gloss.closing
      · subst hc
        simp
      · rw [List.cons_append, List.cons_append, reaches_cons_of_ne hc, reaches_cons_of_ne hc]
        exact and_congr_right fun _ => ih

/-- A closing glyph is reached across a gap and the next occurrence exactly if the gap is inner and
the marks of the form can be crossed. -/
lemma reaches_append_write (ho : f.Admits o) {gap : Text} (hgap : ∀ c ∈ gap, c ∉ f.marks) :
    f.Reaches (gap ++ (f.write o ++ t)) ↔ (∀ c ∈ gap, isInner c) ∧ f.Reaches f.marks := by
  have hclosing : f.gloss.closing ∉ gap := fun h => hgap _ h (by simp [marks])
  have hword : ∀ c ∈ o.word, isInner c ∧ c ∉ f.marks :=
    fun c hc => ⟨ho.word c hc, ho.word_marks c hc⟩
  have hgloss : ∀ c ∈ o.gloss, isInner c ∧ c ∉ f.marks :=
    fun c hc => ⟨ho.gloss c hc, ho.gloss_marks c hc⟩
  have hmarks : f.Reaches (f.write o ++ t) ↔ f.Reaches f.marks := by
    calc f.Reaches (f.write o ++ t)
        ↔ f.Reaches ([f.main.opening]
            ++ (o.word ++ (f.middle ++ (o.gloss ++ f.gloss.closing :: t)))) := by
          rw [write_append, List.singleton_append]
      _ ↔ f.Reaches ((f.main.opening :: f.middle) ++ (o.gloss ++ f.gloss.closing :: t)) := by
          rw [reaches_skip hword]
          rfl
      _ ↔ f.Reaches ((f.main.opening :: f.middle) ++ f.gloss.closing :: t) := reaches_skip hgloss _
      _ ↔ f.Reaches f.marks := reaches_closing _
  rw [reaches_append hclosing, hmarks]

/-! ## One occurrence -/

/-- Some gloss is found where one was written. -/
lemma findGloss_append_ne_none {g : Text} (hne : g ≠ []) (hg : ∀ c ∈ g, isInner c) :
    f.findGloss (g ++ f.gloss.closing :: t) ≠ none := by
  rw [findGloss]
  intro h
  have hclosing := runThen_eq_none (Option.map_eq_none_iff.1 h) rfl hne hg
  rw [isPrefixOf?_singleton_eq_some.2 rfl] at hclosing
  exact absurd hclosing (by simp)

/-- Something is found where an occurrence was written. -/
lemma find_write_ne_none (ho : o.IsInner) : f.find (f.write o ++ t) ≠ none := by
  rw [write_append, find, if_pos rfl]
  intro h
  have hmiddle := runThen_eq_none (Option.map_eq_none_iff.1 h) rfl ho.word_ne ho.word
  rw [middle_bind_append] at hmiddle
  exact findGloss_append_ne_none ho.gloss_ne ho.gloss hmiddle

/-- Where something other than the written occurrence is found, the annotation is another one. -/
lemma apply_append_ne (fallback : Brackets) (hf : escapeChar ∉ f.marks) (ho : o.IsInner)
    (h : f.find (f.write o ++ t) ≠ some (o, f.write o)) (u : Text) :
    f.apply false fallback (f.write o ++ t) ≠ fallback.markup (o.segments false) ++ u := by
  intro heq
  obtain ⟨⟨o', matched⟩, hfind⟩ := Option.ne_none_iff_exists'.1 (find_write_ne_none (f := f) ho)
  obtain ⟨rfl, ho', rest, hrest⟩ := find_eq_some hfind
  have hangle : ¬ isInner '<' := by decide
  have hruby : ∀ o : Occurrence,
      fallback.markup (o.segments false) = fallback.ruby o.word o.gloss :=
    fun o => by simp [Occurrence.segments, Brackets.segment]
  rw [hrest] at hfind heq
  rw [apply_append_found hf hfind, hruby, hruby] at heq
  obtain ⟨hword, hgloss⟩ :=
    Markup.ruby_append_inj (notMem_of_isInner hangle ho'.word) (notMem_of_isInner hangle ho.word)
      (notMem_of_isInner hangle ho'.gloss) (notMem_of_isInner hangle ho.gloss) heq
  have hsame : o' = o := by cases o'; cases o; simp_all
  subst hsame
  exact h (hrest ▸ hfind)

/-! ## Passages -/

/-- Occurrences, each of them behind some plain text, and plain text at the end. -/
structure Passage where
  items : List (Text × Occurrence)
  last : Text
deriving DecidableEq, Repr

namespace Passage

/-- The passage as it is written under the form. -/
def write (f : Form) (d : Passage) : Text :=
  d.items.foldr (fun item rest => item.1 ++ (f.write item.2 ++ rest)) d.last

/-- The passage with every occurrence converted alone. -/
def converted (aligned : Bool) (fallback : Brackets) (d : Passage) : Text :=
  d.items.foldr (fun item rest => item.1 ++ (fallback.markup (item.2.segments aligned) ++ rest))
    d.last

/-- No escape stands anywhere, and the marks of the form stand only where an occurrence has them. -/
@[mk_iff] structure Fits (f : Form) (d : Passage) : Prop where
  marks : escapeChar ∉ f.marks
  occurrence : ∀ item ∈ d.items, f.Admits item.2
  lead : ∀ item ∈ d.items, ∀ c ∈ item.1, c ∉ f.marks ∧ c ≠ escapeChar
  last : ∀ c ∈ d.last, c ∉ f.marks ∧ c ≠ escapeChar

/-- If the form merges, a character that is not inner stands between any two occurrences. -/
def Separated (f : Form) (d : Passage) : Prop :=
  f.Merges → ∀ item ∈ d.items.tail, ∃ c ∈ item.1, ¬ isInner c

variable {item : Text × Occurrence} {items : List (Text × Occurrence)} {last : Text}

@[simp] lemma write_nil (f : Form) (last : Text) : write f ⟨[], last⟩ = last := rfl

@[simp] lemma write_cons (f : Form) (item : Text × Occurrence) (items : List (Text × Occurrence))
    (last : Text) : write f ⟨item :: items, last⟩
      = item.1 ++ (f.write item.2 ++ write f ⟨items, last⟩) := rfl

@[simp] lemma converted_nil (aligned : Bool) (fallback : Brackets) (last : Text) :
    converted aligned fallback ⟨[], last⟩ = last := rfl

@[simp] lemma converted_cons (aligned : Bool) (fallback : Brackets) (item : Text × Occurrence)
    (items : List (Text × Occurrence)) (last : Text) :
    converted aligned fallback ⟨item :: items, last⟩
      = item.1 ++ (fallback.markup (item.2.segments aligned)
        ++ converted aligned fallback ⟨items, last⟩) := rfl

lemma Fits.tail (h : Fits f ⟨item :: items, last⟩) : Fits f ⟨items, last⟩ where
  marks := h.marks
  occurrence i hi := h.occurrence i (List.mem_cons_of_mem _ hi)
  lead i hi := h.lead i (List.mem_cons_of_mem _ hi)
  last := h.last

lemma Separated.tail (h : Separated f ⟨item :: items, last⟩) : Separated f ⟨items, last⟩ :=
  fun hf i hi => h hf i (List.mem_of_mem_tail hi)

lemma Fits.apply_lead (h : Fits f ⟨item :: items, last⟩) (aligned : Bool) (fallback : Brackets)
    (t : Text) : f.apply aligned fallback (item.1 ++ t) = item.1 ++ f.apply aligned fallback t := by
  have hlead := h.lead item (by simp)
  exact apply_append_plain (fun hmem => (hlead _ hmem).1 (by simp [Form.marks]))
    (fun hmem => (hlead _ hmem).2 rfl) t

lemma Fits.apply_last (h : Fits f ⟨items, last⟩) (aligned : Bool) (fallback : Brackets) :
    f.apply aligned fallback last = last := by
  have hopening : f.main.opening ∉ last := fun hmem => (h.last _ hmem).1 (by simp [Form.marks])
  have hesc : escapeChar ∉ last := fun hmem => (h.last _ hmem).2 rfl
  have hplain : f.apply aligned fallback (last ++ []) = last ++ f.apply aligned fallback [] :=
    apply_append_plain hopening hesc []
  simpa [apply_eq_pass] using hplain

/-- The next occurrence is reached from the end of the one before it if the gap is inner. -/
lemma reaches_write (h : Fits f ⟨items, last⟩) :
    f.Reaches (write f ⟨items, last⟩) ↔
      ∃ item ∈ items.head?, (∀ c ∈ item.1, isInner c) ∧ f.Reaches f.marks := by
  cases items with
  | nil =>
      have hlast : f.gloss.closing ∉ last := fun hmem =>
        (h.last _ hmem).1 (by simp [Form.marks])
      simpa using not_reaches_of_notMem hlast
  | cons item items =>
      rw [write_cons, reaches_append_write (h.occurrence item (by simp))
        fun c hc => (h.lead item (by simp) c hc).1]
      simp

/-- An occurrence is found as it was written unless the form merges it with the next one. -/
lemma find_write (h : Fits f ⟨item :: items, last⟩) :
    f.find (f.write item.2 ++ write f ⟨items, last⟩) = some (item.2, f.write item.2) ↔
      (f.Merges → ∀ next ∈ items.head?, ∃ c ∈ next.1, ¬ isInner c) := by
  rw [find_write_iff (h.occurrence item (by simp)), reaches_write h.tail]
  constructor
  · intro hnot hf next hnext
    by_contra hall
    push Not at hall
    exact hnot ⟨hf.1, next, hnext, hall, hf.2⟩
  · rintro hgap ⟨hclosing, next, hnext, hinner, hmarks⟩
    obtain ⟨c, hc, hstop⟩ := hgap ⟨hclosing, hmarks⟩ next hnext
    exact hstop (hinner c hc)

theorem apply_write_of_separated (aligned : Bool) (fallback : Brackets) (h : Fits f ⟨items, last⟩)
    (hs : Separated f ⟨items, last⟩) :
    f.apply aligned fallback (write f ⟨items, last⟩)
      = converted aligned fallback ⟨items, last⟩ := by
  induction items with
  | nil => exact h.apply_last aligned fallback
  | cons item items ih =>
      have hfind : f.find (f.write item.2 ++ write f ⟨items, last⟩)
          = some (item.2, f.write item.2) :=
        (find_write h).2 fun hf next hnext => hs hf next (List.mem_of_mem_head? hnext)
      rw [write_cons, h.apply_lead, apply_append_found h.marks hfind, ih h.tail hs.tail,
        converted_cons]

theorem apply_write_ne (fallback : Brackets) (h : Fits f ⟨items, last⟩)
    (hs : ¬ Separated f ⟨items, last⟩) :
    f.apply false fallback (write f ⟨items, last⟩) ≠ converted false fallback ⟨items, last⟩ := by
  induction items with
  | nil => exact absurd (fun _ _ hi => absurd hi (by simp)) hs
  | cons item items ih =>
      rw [write_cons, h.apply_lead, converted_cons]
      intro heq
      have heq := List.append_cancel_left heq
      by_cases hfind : f.find (f.write item.2 ++ write f ⟨items, last⟩)
          = some (item.2, f.write item.2)
      · rw [apply_append_found h.marks hfind] at heq
        refine ih h.tail (fun htail => hs ?_) (List.append_cancel_left heq)
        intro hf next hnext
        cases items with
        | nil => exact absurd hnext (by simp)
        | cons i items =>
            rcases List.mem_cons.1 hnext with rfl | hmem
            · exact (find_write h).1 hfind hf _ rfl
            · exact htail hf next hmem
      · exact apply_append_ne fallback h.marks (h.occurrence item (by simp)).toIsInner hfind _ heq

end Passage

/-! ## Conversion occurrence by occurrence -/

/-- Glyphs that words and glosses may hold do not keep two occurrences apart. -/
theorem apply_merges_neighbours :
    ∃ (f : Form) (d : Passage), ofText? "《》:・:〈〉".toList = some f ∧ d.Fits f ∧
      d.write f = "《字》・〈じ〉と《字》・〈あざ〉".toList ∧
      f.apply false .lenticular (d.write f)
        = "<ruby>字》・〈じ〉と《字<rp>【</rp><rt>あざ</rt><rp>】</rp></ruby>".toList ∧
      f.apply false .lenticular (d.write f) ≠ d.converted false .lenticular := by
  refine ⟨⟨⟨'《', '》'⟩, ['・'], ⟨'〈', '〉'⟩⟩,
    ⟨[([], ⟨['字'], ['じ']⟩), (['と'], ⟨['字'], ['あ', 'ざ']⟩)], []⟩, rfl, ?_, rfl, ?_, ?_⟩
  · simp [Passage.fits_iff, admits_iff, Occurrence.isInner_iff, marks, middle, isInner, escapeChar]
  · decide +kernel
  · decide +kernel

/-- **Occurrences of a form are converted one by one exactly if they are separated.**  Words,
glosses and the text between the occurrences hold no mark of the form and no escape. -/
theorem separated_iff_apply_write (f : Form) (d : Passage) (h : d.Fits f) :
    d.Separated f ↔
      ∀ aligned fallback, f.apply aligned fallback (d.write f) = d.converted aligned fallback := by
  constructor
  · intro hs aligned fallback
    exact Passage.apply_write_of_separated aligned fallback h hs
  · intro happly
    by_contra hs
    exact Passage.apply_write_ne .lenticular h hs (happly false .lenticular)

/-- A space keeps two occurrences of a form apart that merges. -/
theorem apply_write_two_words :
    ∃ (f : Form) (d : Passage), d.Fits f ∧ f.Merges ∧ d.Separated f ∧
      d.write f = "《字》・〈じ〉と 《食べ物》・〈たべもの〉".toList ∧
      ∀ aligned fallback, f.apply aligned fallback (d.write f) = d.converted aligned fallback := by
  let f : Form := ⟨⟨'《', '》'⟩, ['・'], ⟨'〈', '〉'⟩⟩
  let d : Passage := ⟨[([], ⟨['字'], ['じ']⟩),
    (['と', ' '], ⟨['食', 'べ', '物'], ['た', 'べ', 'も', 'の']⟩)], []⟩
  have hfits : d.Fits f := by
    simp [f, d, Passage.fits_iff, admits_iff, Occurrence.isInner_iff, marks, middle, isInner,
      escapeChar]
  have hmerges : f.Merges := by
    refine ⟨by simp [f, isInner], ['《', '》', '・', '〈'], [], rfl, by simp [isInner]⟩
  have hseparated : d.Separated f := by
    intro _
    simp [d, isInner, isAsciiWord, Text.isAsciiAlphanumeric]
  exact ⟨f, d, hfits, hmerges, hseparated, rfl, (separated_iff_apply_write f d hfits).1 hseparated⟩

end Furigana.Form
