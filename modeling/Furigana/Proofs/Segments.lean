import Mathlib
import Furigana.Detection
import Furigana.Form
import Furigana.Proofs.Alignment
import Furigana.Proofs.Text

/-!
# What segments are made of

Aligning and distributing cut a word and its gloss into segments.  Nothing of the word is lost, and
nothing appears that is in neither of the two.

* `flatMap_base_split` — without the glosses of a distribution the word remains;
* `mem_split` — distribution annotates stretches of the base with stretches of the gloss;
* `Form.Occurrence.over_segments`, `Detection.over_segments`, `Detection.mem_segments` — the same for
  the segments of an occurrence, aligned or not.
-/

namespace Furigana

variable {p : Char → Prop}

/-! ## What is shared -/

lemma dropShared_suffix (t u : Text) : dropShared t u <:+ t := by
  fun_induction dropShared t u with
  | case1 _ _ _ ih => exact ih.trans (List.suffix_cons _ _)
  | case2 => exact List.suffix_refl _
  | case3 => exact List.suffix_refl _

lemma stripSuffix_isPrefix (gloss suffix : Text) : stripSuffix gloss suffix <+: gloss := by
  rw [stripSuffix]
  split
  · exact List.prefix_rfl
  · exact List.reverse_suffix.1 (by simpa using dropShared_suffix gloss.reverse suffix.reverse)

/-! ## Distribution -/

lemma flatMap_base_spread (base : Text) {readings : List Text} (h : readings ≠ []) :
    (spread base readings).flatMap Segment.base = base := by
  fun_induction spread base readings with
  | case1 base reading => simp [Segment.base]
  | case2 c base reading readings hne ih =>
      have hreadings : readings ≠ [] := by
        rintro rfl
        exact hne rfl
      rw [List.flatMap_cons, ih hreadings]
      rfl
  | case3 base readings hone hcons =>
      cases base with
      | nil => rfl
      | cons c base =>
          obtain ⟨reading, rest, rfl⟩ := List.exists_cons_of_ne_nil h
          exact absurd rfl (hcons c base reading rest rfl)

/-- Readings are given to stretches of the base. -/
lemma mem_spread {base : Text} {readings : List Text} {s : Segment} (hs : s ∈ spread base readings) :
    ∃ word reading, s = .ruby word reading ∧ word <:+: base ∧ reading ∈ readings := by
  fun_induction spread base readings with
  | case1 base reading =>
      obtain rfl := List.mem_singleton.1 hs
      exact ⟨base, reading, rfl, List.infix_rfl, by simp⟩
  | case2 c base reading readings _ ih =>
      rcases List.mem_cons.1 hs with rfl | hs
      · exact ⟨[c], reading, rfl, ⟨[], base, rfl⟩, by simp⟩
      · obtain ⟨word, r, rfl, hword, hr⟩ := ih hs
        exact ⟨word, r, rfl, hword.trans (List.suffix_cons c base).isInfix,
          List.mem_cons_of_mem _ hr⟩
  | case3 => exact absurd hs (by simp)

lemma flatMap_base_distribute (base gloss : Text) :
    (distribute base gloss).flatMap Segment.base = base := by
  rw [distribute]
  split_ifs
  · exact flatMap_base_spread base (Text.pieces_ne_nil _ _)
  · simp [Segment.base]

lemma mem_distribute {base gloss : Text} {s : Segment} (hs : s ∈ distribute base gloss) :
    ∃ word reading, s = .ruby word reading ∧ word <:+: base ∧ reading <:+: gloss := by
  rw [distribute] at hs
  split_ifs at hs
  · obtain ⟨word, reading, rfl, hword, hreading⟩ := mem_spread hs
    exact ⟨word, reading, rfl, hword, Text.infix_of_mem_pieces hreading⟩
  · obtain rfl := List.mem_singleton.1 hs
    exact ⟨base, gloss, rfl, List.infix_rfl, List.infix_rfl⟩

/-- Distribution over some ideographs starts with an annotation. -/
lemma exists_ruby_distribute {base : Text} (hbase : base ≠ []) (gloss : Text) :
    ∃ word reading rest, distribute base gloss = .ruby word reading :: rest := by
  obtain ⟨c, base, rfl⟩ := List.exists_cons_of_ne_nil hbase
  obtain ⟨reading, readings, hreadings⟩ :=
    List.exists_cons_of_ne_nil (Text.pieces_ne_nil isSeparator gloss)
  rw [distribute, hreadings]
  split_ifs
  · cases readings with
    | nil => exact ⟨_, _, _, rfl⟩
    | cons next readings => exact ⟨_, _, _, rfl⟩
  · exact ⟨_, _, _, rfl⟩

/-- **Distribution keeps the word and the kana behind it.** -/
theorem flatMap_base_split (base suffix gloss : Text) :
    (split base suffix gloss).flatMap Segment.base = base ++ suffix := by
  rw [split, List.flatMap_append, flatMap_base_distribute]
  cases suffix <;> simp [Segment.base]

/-- **Distribution invents nothing.**  Stretches of the gloss annotate stretches of the base, and the
kana pass as they are. -/
theorem mem_split {base suffix gloss : Text} {s : Segment} (hs : s ∈ split base suffix gloss) :
    (∃ word reading, s = .ruby word reading ∧ word <:+: base ∧ reading <:+: gloss) ∨
      s = .literal suffix := by
  rw [split] at hs
  rcases List.mem_append.1 hs with hs | hs
  · obtain ⟨word, reading, rfl, hword, hreading⟩ := mem_distribute hs
    exact Or.inl ⟨word, reading, rfl, hword,
      hreading.trans (stripSuffix_isPrefix gloss suffix).isInfix⟩
  · split_ifs at hs with hempty
    · exact absurd hs (by simp)
    · exact Or.inr (List.mem_singleton.1 hs)

/-! ## The segments of an occurrence -/

lemma Form.Occurrence.flatMap_base_segments (aligned : Bool) (o : Form.Occurrence) :
    (o.segments aligned).flatMap Segment.base = o.word := by
  cases aligned with
  | false => exact List.append_nil o.word
  | true => exact flatMap_base_align o.word o.gloss

lemma Form.Occurrence.over_segments (aligned : Bool) {o : Form.Occurrence}
    (hword : ∀ c ∈ o.word, p c) (hgloss : ∀ c ∈ o.gloss, p c) :
    ∀ s ∈ o.segments aligned, s.Over p := by
  cases aligned with
  | false =>
      intro s hs
      obtain rfl := List.mem_singleton.1 hs
      exact ⟨hword, hgloss⟩
  | true => exact over_align hword hgloss

/-- Markup that starts with an annotation starts with a tag. -/
lemma Brackets.exists_markup_eq_cons (b : Brackets) {segments : List Segment}
    (h : ∃ base reading rest, segments = .ruby base reading :: rest) :
    ∃ y, b.markup segments = '<' :: y := by
  obtain ⟨base, reading, rest, rfl⟩ := h
  simp only [markup_cons, segment, ruby_eq, Tag.opening, List.cons_append]
  exact ⟨_, rfl⟩

lemma Form.Occurrence.exists_ruby_segments (aligned : Bool) (o : Form.Occurrence) :
    ∃ base reading rest, o.segments aligned = .ruby base reading :: rest := by
  cases aligned with
  | false => exact ⟨_, _, _, rfl⟩
  | true => exact exists_ruby_align o.word o.gloss

lemma Detection.exists_ruby_segments (aligned : Bool) {d : Detection} (hbase : d.base ≠ []) :
    ∃ base reading rest, d.segments aligned = .ruby base reading :: rest := by
  cases aligned with
  | false => exact ⟨_, _, _, rfl⟩
  | true =>
      obtain ⟨base, reading, rest, hrest⟩ :=
        exists_ruby_distribute hbase (stripSuffix d.gloss d.suffix)
      exact ⟨base, reading, _, by rw [segments, if_pos rfl, split, hrest, List.cons_append]⟩

lemma Detection.flatMap_base_segments (aligned : Bool) (d : Detection) :
    (d.segments aligned).flatMap Segment.base = d.base ++ d.suffix := by
  cases aligned with
  | false => simp [segments, Segment.base]
  | true => exact flatMap_base_split d.base d.suffix d.gloss

lemma Detection.mem_segments (aligned : Bool) {d : Detection} {s : Segment}
    (hs : s ∈ d.segments aligned) :
    (∃ word reading, s = .ruby word reading ∧ word <:+: d.base ∧ reading <:+: d.gloss) ∨
      s = .literal d.suffix := by
  cases aligned with
  | false =>
      rcases List.mem_cons.1 hs with rfl | hs
      · exact Or.inl ⟨d.base, d.gloss, rfl, List.infix_rfl, List.infix_rfl⟩
      · exact Or.inr (List.mem_singleton.1 hs)
  | true => exact mem_split hs

lemma Detection.over_segments (aligned : Bool) {d : Detection} (hbase : ∀ c ∈ d.base, p c)
    (hsuffix : ∀ c ∈ d.suffix, p c) (hgloss : ∀ c ∈ d.gloss, p c) :
    ∀ s ∈ d.segments aligned, s.Over p := by
  intro s hs
  rcases d.mem_segments aligned hs with ⟨word, reading, rfl, hword, hreading⟩ | rfl
  · exact ⟨fun c hc => hbase c (hword.subset hc), fun c hc => hgloss c (hreading.subset hc)⟩
  · exact hsuffix

end Furigana
