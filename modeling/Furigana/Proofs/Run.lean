import Mathlib
import Furigana.Run

/-!
# The runs of a word

The runs of a word make up the word, every run is of one kind, and neighbours differ in kind, so
that no run can be made longer.  A word has no other division of this sort.

* `Run.IsUniform`, `Alternate` — runs of one kind each, and runs that cannot be merged;
* `flatMap_text_runs`, `isUniform_of_mem_runs`, `alternate_runs` — the runs of a word are like that;
* **`runs_flatMap_text`** — whatever is of this sort is the runs of its text;
* `Run.join`, `runs_append` — the runs of two words in a row;
* **`runs_unique`** — the only division of a word, and what becomes of it when the word goes on;
* `Interleaved` — ideographic runs and anchors in turn, which is what alternating runs are from an
  ideographic one on (`interleaved_of_alternate`, `Interleaved.alternate`).
-/

namespace Furigana

variable {r : Run} {rs : List Run} {t : Text}

/-- A run holds a character, and all its characters are of its kind. -/
@[mk_iff] structure Run.IsUniform (r : Run) : Prop where
  ne_nil : r.text ≠ []
  kind : ∀ c ∈ r.text, isLogographic c = r.logographic

/-- Neighbouring runs are of different kinds. -/
def Alternate (rs : List Run) : Prop := rs.IsChain fun r s => r.logographic ≠ s.logographic

/-! ## Dividing a word -/

lemma flatMap_text_extend (c : Char) (rs : List Run) :
    (Run.extend c rs).flatMap Run.text = c :: rs.flatMap Run.text := by
  cases rs with
  | nil => rfl
  | cons r rs => rw [Run.extend]; split_ifs <;> rfl

/-- The runs of a word make up the word. -/
lemma flatMap_text_runs (word : Text) : (runs word).flatMap Run.text = word := by
  induction word with
  | nil => rfl
  | cons c word ih => rw [runs_cons, flatMap_text_extend, ih]

/-- One character more keeps runs of one kind and keeps neighbours apart. -/
lemma isUniform_alternate_extend (c : Char) (huniform : ∀ r ∈ rs, r.IsUniform)
    (halternate : Alternate rs) :
    (∀ r ∈ Run.extend c rs, r.IsUniform) ∧ Alternate (Run.extend c rs) := by
  have hsingle : (Run.mk [c] (isLogographic c)).IsUniform := ⟨by simp, by simp⟩
  cases rs with
  | nil => exact ⟨by simpa [Run.extend] using hsingle, List.isChain_singleton _⟩
  | cons r rs =>
      rw [Run.extend]
      split_ifs with hkind
      · obtain ⟨hr, hrs⟩ := List.forall_mem_cons.1 huniform
        have hlonger : (Run.mk (c :: r.text) r.logographic).IsUniform :=
          ⟨by simp, List.forall_mem_cons.2 ⟨hkind.symm, hr.kind⟩⟩
        -- the kind of the first run stays, and so does how it differs from its neighbour
        refine ⟨List.forall_mem_cons.2 ⟨hlonger, hrs⟩, ?_⟩
        cases rs with
        | nil => exact List.isChain_singleton _
        | cons s rs =>
            rw [Alternate, List.isChain_cons_cons] at halternate
            exact List.isChain_cons_cons.2 halternate
      · exact ⟨List.forall_mem_cons.2 ⟨hsingle, huniform⟩,
          List.isChain_cons_cons.2 ⟨Ne.symm hkind, halternate⟩⟩

lemma isUniform_alternate_runs (word : Text) :
    (∀ r ∈ runs word, r.IsUniform) ∧ Alternate (runs word) := by
  induction word with
  | nil => exact ⟨by simp, List.isChain_nil⟩
  | cons c word ih => exact isUniform_alternate_extend c ih.1 ih.2

lemma isUniform_of_mem_runs {word : Text} (h : r ∈ runs word) : r.IsUniform :=
  (isUniform_alternate_runs word).1 r h

lemma alternate_runs (word : Text) : Alternate (runs word) := (isUniform_alternate_runs word).2

/-- A word starts with a run of the kind of its first character. -/
lemma exists_runs_cons (c : Char) (word : Text) :
    ∃ text rs, runs (c :: word) = ⟨c :: text, isLogographic c⟩ :: rs := by
  rw [runs_cons]
  cases runs word with
  | nil => exact ⟨[], [], rfl⟩
  | cons r rs =>
      rw [Run.extend]
      split_ifs with hkind
      · exact ⟨r.text, rs, by rw [hkind]⟩
      · exact ⟨[], r :: rs, rfl⟩

/-- The first run is of the kind of the first character. -/
lemma map_head?_runs (word : Text) :
    (runs word).head?.map Run.logographic = word.head?.map isLogographic := by
  cases word with
  | nil => rfl
  | cons c word =>
      obtain ⟨text, rs, hruns⟩ := exists_runs_cons c word
      rw [hruns]
      rfl

/-- All runs are ideographic if all characters are. -/
lemma forall_mem_runs_iff (word : Text) :
    (∀ r ∈ runs word, r.logographic) ↔ ∀ c ∈ word, isLogographic c := by
  have hmem : ∀ c, c ∈ word ↔ ∃ r ∈ runs word, c ∈ r.text := fun c => by
    rw [← List.mem_flatMap, flatMap_text_runs]
  constructor
  · intro h c hc
    obtain ⟨r, hr, hc⟩ := (hmem c).1 hc
    exact ((isUniform_of_mem_runs hr).kind c hc).trans (h r hr)
  · intro h r hr
    obtain ⟨c, hc⟩ := List.exists_mem_of_ne_nil _ (isUniform_of_mem_runs hr).ne_nil
    exact ((isUniform_of_mem_runs hr).kind c hc).symm.trans (h c ((hmem c).2 ⟨r, hr, hc⟩))

/-! ## No other division -/

/-- Text of one kind in front is the first run, unless the run behind it is of that kind too. -/
lemma runs_uniform_append (hr : r.IsUniform)
    (hnext : ∀ s ∈ (runs t).head?, r.logographic ≠ s.logographic) :
    runs (r.text ++ t) = r :: runs t := by
  obtain ⟨text, kind⟩ := r
  obtain ⟨hne, hkind⟩ := hr
  induction text with
  | nil => exact absurd rfl hne
  | cons c text ih =>
      obtain ⟨rfl, hrest⟩ := List.forall_mem_cons.1 hkind
      rw [List.cons_append, runs_cons]
      rcases text with _ | ⟨d, text⟩
      · rw [List.nil_append]
        cases hruns : runs t with
        | nil => rfl
        | cons s rs => rw [Run.extend, if_neg (Ne.symm (hnext s (by simp [hruns])))]
      · rw [ih hnext (by simp) hrest, Run.extend, if_pos rfl]

/-- **A division into alternating runs is the division into runs.** -/
theorem runs_flatMap_text (huniform : ∀ r ∈ rs, r.IsUniform) (halternate : Alternate rs) :
    runs (rs.flatMap Run.text) = rs := by
  induction rs with
  | nil => rfl
  | cons r rs ih =>
      obtain ⟨hr, hrs⟩ := List.forall_mem_cons.1 huniform
      obtain ⟨hnext, hrest⟩ := List.isChain_cons.1 halternate
      have hruns : runs (rs.flatMap Run.text) = rs := ih hrs hrest
      rw [List.flatMap_cons, runs_uniform_append hr (by rwa [hruns]), hruns]

/-! ## Two words in a row -/

/-- Runs with other runs behind them.  Where the last of the first ones and the first of the others
both exist and are of one kind, they are one run. -/
def Run.join (rs ss : List Run) : List Run :=
  match rs.getLast?, ss with
  | some r, s :: back =>
    if r.logographic = s.logographic then rs.dropLast ++ ⟨r.text ++ s.text, r.logographic⟩ :: back
    else rs ++ s :: back
  | _, _ => rs ++ ss

lemma Run.join_of_eq {front back : List Run} {r s : Run} (h : r.logographic = s.logographic) :
    join (front ++ [r]) (s :: back) = front ++ ⟨r.text ++ s.text, r.logographic⟩ :: back := by
  simp [join, h]

lemma Run.join_of_ne {ss : List Run}
    (h : ∀ r ∈ rs.getLast?, ∀ s ∈ ss.head?, r.logographic ≠ s.logographic) :
    join rs ss = rs ++ ss := by
  unfold join
  split
  · rename_i r s back hr
    rw [if_neg (h r hr s rfl)]
  · rfl

/-- Neighbours of one kind are merged to a run of that kind, which still differs from those around
it. -/
lemma isUniform_alternate_merge {front back : List Run} {r s : Run}
    (hkind : r.logographic = s.logographic) (hfront : ∀ q ∈ front ++ [r], q.IsUniform)
    (hback : ∀ q ∈ s :: back, q.IsUniform) (halternate : Alternate (front ++ [r]))
    (halternate' : Alternate (s :: back)) :
    (∀ q ∈ front ++ ⟨r.text ++ s.text, r.logographic⟩ :: back, q.IsUniform) ∧
      Alternate (front ++ ⟨r.text ++ s.text, r.logographic⟩ :: back) := by
  have hr : r.IsUniform := hfront r (by simp)
  have hs : s.IsUniform := hback s (by simp)
  have hmerged : (Run.mk (r.text ++ s.text) r.logographic).IsUniform :=
    ⟨by simp [hr.ne_nil], List.forall_mem_append.2 ⟨hr.kind, hkind ▸ hs.kind⟩⟩
  obtain ⟨hchain, -, hseam⟩ := List.isChain_append.1 halternate
  obtain ⟨hnext, hchain'⟩ := List.isChain_cons.1 halternate'
  refine ⟨?_, List.isChain_append.2 ⟨hchain, List.isChain_cons.2 ⟨?_, hchain'⟩, ?_⟩⟩
  · rw [List.forall_mem_append, List.forall_mem_cons]
    exact ⟨(List.forall_mem_append.1 hfront).1, hmerged, (List.forall_mem_cons.1 hback).2⟩
  · exact fun q hq => hkind ▸ hnext q hq
  · intro q hq _ hm
    obtain rfl := Option.some.inj hm
    exact hseam q hq r rfl

/-- **The runs of two words in a row** are the runs of the one and the runs of the other, except that
two of one kind at the seam are one run. -/
lemma runs_append (a b : Text) : runs (a ++ b) = Run.join (runs a) (runs b) := by
  have htext : (runs a ++ runs b).flatMap Run.text = a ++ b := by
    rw [List.flatMap_append, flatMap_text_runs, flatMap_text_runs]
  obtain ⟨huniform, halternate⟩ := isUniform_alternate_runs a
  obtain ⟨huniform', halternate'⟩ := isUniform_alternate_runs b
  by_cases hseam : ∀ r ∈ (runs a).getLast?, ∀ s ∈ (runs b).head?, r.logographic ≠ s.logographic
  · rw [Run.join_of_ne hseam, ← htext]
    exact runs_flatMap_text (List.forall_mem_append.2 ⟨huniform, huniform'⟩)
      (List.isChain_append.2 ⟨halternate, halternate', hseam⟩)
  · push Not at hseam
    obtain ⟨r, hr, s, hs, hkind⟩ := hseam
    obtain ⟨front, hfront⟩ := List.getLast?_eq_some_iff.1 hr
    obtain ⟨back, hback⟩ := List.head?_eq_some_iff.1 hs
    rw [hfront] at huniform halternate htext
    rw [hback] at huniform' halternate' htext
    obtain ⟨hmerged, hmerged'⟩ :=
      isUniform_alternate_merge hkind huniform huniform' halternate halternate'
    -- merging two runs leaves their text as it is
    have hword : (front ++ ⟨r.text ++ s.text, r.logographic⟩ :: back).flatMap Run.text = a ++ b := by
      rw [← htext]
      simp
    rw [hfront, hback, Run.join_of_eq hkind, ← hword, runs_flatMap_text hmerged hmerged']

/-- **The runs of a word are its only division** into stretches of one kind each, none of them empty,
with neighbours of different kinds.  If the word goes on, the runs of what follows come behind its
own, and the two at the seam are merged exactly if both exist and are of one kind. -/
theorem runs_unique (word : Text) :
    (∀ rs, rs = runs word ↔
      rs.flatMap Run.text = word ∧ (∀ r ∈ rs, r.IsUniform) ∧ Alternate rs) ∧
    ∀ next, runs (word ++ next) = Run.join (runs word) (runs next) := by
  refine ⟨fun rs => ⟨?_, ?_⟩, fun next => runs_append word next⟩
  · rintro rfl
    exact ⟨flatMap_text_runs word, isUniform_alternate_runs word⟩
  · rintro ⟨rfl, huniform, halternate⟩
    exact (runs_flatMap_text huniform halternate).symm

/-! ## Ideographs and anchors in turn -/

/-- Ideographic runs and anchors in turn, an ideographic run first. -/
inductive Interleaved : List Run → Prop
  | nil : Interleaved []
  | base (text : Text) : Interleaved [⟨text, true⟩]
  | anchor (base anchor : Text) {rs : List Run} (h : Interleaved rs) :
      Interleaved (⟨base, true⟩ :: ⟨anchor, false⟩ :: rs)

/-- Alternating runs are interleaved if the first of them is ideographic. -/
lemma interleaved_of_alternate : ∀ {rs : List Run}, Alternate rs →
    (∀ r ∈ rs.head?, r.logographic) → Interleaved rs
  | [], _, _ => .nil
  | [⟨text, kind⟩], _, hfirst => by
      obtain rfl : kind = true := hfirst _ rfl
      exact .base text
  | ⟨base, kind⟩ :: ⟨anchor, kind'⟩ :: rs, halternate, hfirst => by
      obtain rfl : kind = true := hfirst _ rfl
      obtain ⟨hne, hrest⟩ := List.isChain_cons_cons.1 halternate
      obtain rfl : kind' = false := by simpa using hne.symm
      -- the run behind an anchor is ideographic again
      obtain ⟨hnext, hrest⟩ := List.isChain_cons.1 hrest
      refine .anchor base anchor (interleaved_of_alternate hrest fun r hr => ?_)
      simpa using (hnext r hr).symm

lemma Interleaved.head (h : Interleaved rs) : ∀ r ∈ rs.head?, r.logographic := by
  cases h <;> simp

lemma Interleaved.alternate (h : Interleaved rs) : Alternate rs := by
  induction h with
  | nil => exact List.isChain_nil
  | base text => exact List.isChain_singleton _
  | anchor base anchor hrs ih =>
      refine List.isChain_cons_cons.2 ⟨by simp, List.isChain_cons.2 ⟨fun r hr => ?_, ih⟩⟩
      simp [hrs.head r hr]

end Furigana
