import Mathlib
import Furigana.Proofs.Markup

/-!
# Segments read from their markup

Where one literal ends and the next one starts does not show in markup, and an empty literal does not
show at all.  Everything else does: if no `<` stands in the segments, a tag ends every text in front of
it, so base and gloss of each annotation can be read off, whatever else they hold.

* `merged` — segments as far as markup shows them, and `markup_merged`, that it shows no more;
* `IsMerged`, `isMerged_merged` — what such segments look like;
* `IsMerged.eq_of_markup_eq` — such segments can be read from their markup;
* **`Brackets.markup_eq_iff`** — the markup tells segments apart exactly up to merging.
-/

namespace Furigana

variable {b : Brackets} {s : Segment} {segments segments' rest : List Segment} {t : Text}
  {p : Char → Prop}

/-! ## Merging -/

/-- A segment in front of others.  Two literals in a row become one. -/
def Segment.mergeInto : Segment → List Segment → List Segment
  | .literal t, .literal u :: rest => .literal (t ++ u) :: rest
  | s, rest => s :: rest

/-- Segments with empty literals dropped and neighbouring literals merged. -/
def merged (segments : List Segment) : List Segment :=
  (segments.filter (· ≠ .literal [])).foldr Segment.mergeInto []

@[simp] lemma merged_cons_empty (rest : List Segment) :
    merged (.literal [] :: rest) = merged rest := rfl

lemma merged_cons (hs : s ≠ .literal []) (rest : List Segment) :
    merged (s :: rest) = s.mergeInto (merged rest) := by
  simp [merged, hs]

/-- What holds without segments, and with one segment more that is no empty literal, holds of merged
segments. -/
lemma merged_induction {P : List Segment → Prop} (hnil : P [])
    (hcons : ∀ s rest, s ∈ segments → s ≠ .literal [] → P rest → P (s.mergeInto rest)) :
    P (merged segments) := by
  induction segments with
  | nil => exact hnil
  | cons s rest ih =>
      have hrest : P (merged rest) :=
        ih fun s' rest' hs' => hcons s' rest' (List.mem_cons_of_mem s hs')
      by_cases hs : s = .literal []
      · rwa [hs, merged_cons_empty]
      · rw [merged_cons hs]
        exact hcons s (merged rest) (by simp) hs hrest

lemma over_mergeInto (hs : s.Over p) (hrest : ∀ s' ∈ rest, s'.Over p) :
    ∀ s' ∈ s.mergeInto rest, s'.Over p := by
  unfold Segment.mergeInto
  split
  · obtain ⟨hu, hrest⟩ := List.forall_mem_cons.1 hrest
    exact List.forall_mem_cons.2 ⟨List.forall_mem_append.2 ⟨hs, hu⟩, hrest⟩
  · exact List.forall_mem_cons.2 ⟨hs, hrest⟩

lemma over_merged (h : ∀ s ∈ segments, s.Over p) : ∀ s ∈ merged segments, s.Over p :=
  merged_induction (P := fun rest => ∀ s ∈ rest, s.Over p) (by simp) fun s _ hs _ hrest =>
    over_mergeInto (h s hs) hrest

lemma Brackets.markup_mergeInto (b : Brackets) (s : Segment) (rest : List Segment) :
    b.markup (s.mergeInto rest) = b.segment s ++ b.markup rest := by
  unfold Segment.mergeInto
  split
  · simp [segment]
  · rw [markup_cons]

/-- Merging does not show. -/
lemma Brackets.markup_merged (b : Brackets) (segments : List Segment) :
    b.markup (merged segments) = b.markup segments := by
  induction segments with
  | nil => rfl
  | cons s rest ih =>
      by_cases hs : s = .literal []
      · rw [hs, merged_cons_empty, ih, markup_cons, segment, List.nil_append]
      · rw [merged_cons hs, markup_mergeInto, ih, markup_cons]

/-! ## Merged segments -/

/-- Segments among which no literal is empty and none is behind another one. -/
inductive IsMerged : List Segment → Prop
  | nil : IsMerged []
  | ruby (base gloss : Text) {rest : List Segment} (hrest : IsMerged rest) :
      IsMerged (.ruby base gloss :: rest)
  | literal {t : Text} {rest : List Segment} (ht : t ≠ []) (hrest : IsMerged rest)
      (hnext : ∀ u, rest.head? ≠ some (.literal u)) : IsMerged (.literal t :: rest)

lemma IsMerged.mergeInto (hs : s ≠ .literal []) (h : IsMerged rest) :
    IsMerged (s.mergeInto rest) := by
  cases s with
  | ruby base gloss => exact .ruby base gloss h
  | literal t =>
      have ht : t ≠ [] := fun hnil => hs (congrArg Segment.literal hnil)
      cases h with
      | nil => exact .literal ht .nil (by simp)
      | ruby base gloss h => exact .literal ht (.ruby base gloss h) (by simp)
      | literal _ h hnext => exact .literal (by simp [ht]) h hnext

lemma isMerged_merged (segments : List Segment) : IsMerged (merged segments) :=
  merged_induction .nil fun _ _ _ hs h => h.mergeInto hs

lemma IsMerged.markup_ne_nil (h : IsMerged (s :: rest)) : b.markup (s :: rest) ≠ [] := by
  cases h with
  | ruby base gloss _ => simp [Brackets.segment, Brackets.ruby_eq, Tag.opening]
  | literal ht _ _ => simp [Brackets.segment, ht]

/-- Where no literal comes next, a tag does. -/
lemma Brackets.markup_nil_or_head (b : Brackets) (h : ∀ u, rest.head? ≠ some (.literal u)) :
    b.markup rest = [] ∨ (b.markup rest).head? = some '<' := by
  rcases rest with _ | ⟨s, rest⟩
  · exact Or.inl rfl
  · cases s with
    | ruby base gloss => exact Or.inr rfl
    | literal u => exact absurd rfl (h u)

/-- An annotation does not start like a text without tags. -/
lemma Brackets.ruby_append_ne (ht : t ≠ []) (hangle : ∀ c ∈ t, c ≠ '<') (base gloss x y : Text) :
    b.ruby base gloss ++ x ≠ t ++ y := by
  obtain ⟨c, t, rfl⟩ := List.exists_cons_of_ne_nil ht
  exact fun heq => hangle c (by simp) (List.head_eq_of_cons_eq heq).symm

/-- **Merged segments can be read from their markup.** -/
lemma IsMerged.eq_of_markup_eq (hm : IsMerged segments) (hm' : IsMerged segments')
    (h : ∀ s ∈ segments, s.Over (· ≠ '<')) (h' : ∀ s ∈ segments', s.Over (· ≠ '<'))
    (heq : b.markup segments = b.markup segments') : segments = segments' := by
  induction hm generalizing segments' with
  | nil =>
      cases segments' with
      | nil => rfl
      | cons s' rest' => exact absurd heq.symm hm'.markup_ne_nil
  | ruby base gloss hrest ih =>
      obtain ⟨⟨hbase, hgloss⟩, htail⟩ := List.forall_mem_cons.1 h
      cases hm' with
      | nil => exact absurd heq (IsMerged.ruby base gloss hrest).markup_ne_nil
      | ruby base' gloss' hrest' =>
          obtain ⟨⟨hbase', hgloss'⟩, htail'⟩ := List.forall_mem_cons.1 h'
          obtain ⟨rfl, rfl⟩ := Markup.ruby_append_inj (Markup.notMem_of_ne hbase)
            (Markup.notMem_of_ne hbase') (Markup.notMem_of_ne hgloss) (Markup.notMem_of_ne hgloss')
            heq
          rw [ih hrest' htail htail' (List.append_cancel_left heq)]
      | literal ht' _ _ =>
          obtain ⟨hangle', -⟩ := List.forall_mem_cons.1 h'
          exact absurd heq (Brackets.ruby_append_ne ht' hangle' base gloss _ _)
  | literal ht hrest hnext ih =>
      obtain ⟨hangle, htail⟩ := List.forall_mem_cons.1 h
      cases hm' with
      | nil => exact absurd heq (IsMerged.literal ht hrest hnext).markup_ne_nil
      | ruby base' gloss' _ =>
          exact absurd heq.symm (Brackets.ruby_append_ne ht hangle base' gloss' _ _)
      | literal _ hrest' hnext' =>
          obtain ⟨hangle', htail'⟩ := List.forall_mem_cons.1 h'
          -- both texts go on to the first tag
          obtain ⟨rfl, hafter⟩ := Markup.lead_inj (Markup.notMem_of_ne hangle)
            (Markup.notMem_of_ne hangle') (b.markup_nil_or_head hnext)
            (b.markup_nil_or_head hnext') heq
          rw [ih hrest' htail htail' hafter]

namespace Brackets

/-- **The markup tells segments apart up to merging.**  Whatever the fallback glyphs are and whatever
else stands in the segments, as long as no `<` does: two lists of segments are written alike exactly
if they are the same once empty literals are dropped and neighbouring literals are merged. -/
theorem markup_eq_iff (b : Brackets) (h : ∀ s ∈ segments, s.Over (· ≠ '<'))
    (h' : ∀ s ∈ segments', s.Over (· ≠ '<')) :
    b.markup segments = b.markup segments' ↔ merged segments = merged segments' := by
  constructor
  · intro heq
    rw [← b.markup_merged segments, ← b.markup_merged segments'] at heq
    exact (isMerged_merged segments).eq_of_markup_eq (isMerged_merged segments') (over_merged h)
      (over_merged h') heq
  · intro hmerged
    rw [← b.markup_merged segments, hmerged, b.markup_merged]

/-- Fallback glyphs, base and gloss that look like the ends of tags.  A literal may be cut anywhere, but
a gloss is no literal. -/
theorem markup_eq_iff_tag_ends :
    ∃ segments cut other : List Segment,
      segments = [.literal "ruby>".toList, .ruby "$1/rt>".toList "rp>".toList, .ruby [] []] ∧
      cut = [.literal ['r'], .literal [], .literal "uby>".toList,
        .ruby "$1/rt>".toList "rp>".toList, .literal [], .ruby [] []] ∧
      other = [.literal "ruby>".toList, .ruby "$1/rt>".toList [], .literal "rp>".toList,
        .ruby [] []] ∧
      (∀ s ∈ segments, s.Over (· ≠ '<')) ∧ (∀ s ∈ cut, s.Over (· ≠ '<')) ∧
      (∀ s ∈ other, s.Over (· ≠ '<')) ∧
      markup ⟨'>', '/'⟩ segments = markup ⟨'>', '/'⟩ cut ∧
      markup ⟨'>', '/'⟩ segments ≠ markup ⟨'>', '/'⟩ other := by
  let segments : List Segment :=
    [.literal "ruby>".toList, .ruby "$1/rt>".toList "rp>".toList, .ruby [] []]
  let cut : List Segment := [.literal ['r'], .literal [], .literal "uby>".toList,
    .ruby "$1/rt>".toList "rp>".toList, .literal [], .ruby [] []]
  let other : List Segment := [.literal "ruby>".toList, .ruby "$1/rt>".toList [],
    .literal "rp>".toList, .ruby [] []]
  have hsegments : ∀ s ∈ segments, s.Over (· ≠ '<') := by simp [segments, Segment.Over]
  have hcut : ∀ s ∈ cut, s.Over (· ≠ '<') := by simp [cut, Segment.Over]
  have hother : ∀ s ∈ other, s.Over (· ≠ '<') := by simp [other, Segment.Over]
  have hsame : merged segments = merged cut := by decide
  have hdiffer : merged segments ≠ merged other := by decide
  exact ⟨segments, cut, other, rfl, rfl, rfl, hsegments, hcut, hother,
    (markup_eq_iff ⟨'>', '/'⟩ hsegments hcut).2 hsame,
    fun heq => hdiffer ((markup_eq_iff ⟨'>', '/'⟩ hsegments hother).1 heq)⟩

end Brackets

end Furigana
