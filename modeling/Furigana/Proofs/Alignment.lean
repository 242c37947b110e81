import Mathlib
import Furigana.Alignment
import Furigana.Proofs.Markup
import Furigana.Proofs.Run

/-!
# How a gloss is divided among the runs of its word

Alignment walks the runs of a word along the gloss.  Each anchor cuts the gloss at its first
occurrence in what is left.  Once the gloss is used up, or an anchor is missing in it, the runs that
are left pass without annotation; if gloss is left over instead, the whole word is annotated.

* `Text.OccursFirstAt`, `Text.cutAt?_eq_some_iff` — a text is cut around a first occurrence;
* `alignRuns?_of_cutAt?_eq_none`, `alignRuns?_of_cutAt?_eq_some` — what an anchor does to the gloss;
* `Segment.reading`, `Follows`, `follows_of_alignRuns?` — what a walk makes of the runs;
* `FoundInTurn`, `alignRuns?_eq_none_iff` — which gloss outlasts the runs;
* `flatMap_base_align`, `mem_align`, `over_align` — the word remains, and nothing is invented;
* **`align_reading`** — the annotated part of a word is read as the gloss;
* **`align_runs`** — the segments are the runs, or one segment is the whole word, and when.
-/

namespace Furigana

/-! ## First occurrences -/

namespace Text

variable {needle t before after : Text} {c : Char} {n : Nat}

/-- `needle` stands behind `n` characters of the text, and nowhere before. -/
def OccursFirstAt (needle t : Text) (n : Nat) : Prop :=
  needle <+: t.drop n ∧ ∀ m < n, ¬ needle <+: t.drop m

instance (needle t : Text) (n : Nat) : Decidable (OccursFirstAt needle t n) :=
  inferInstanceAs (Decidable (_ ∧ _))

@[simp] lemma occursFirstAt_zero : OccursFirstAt needle t 0 ↔ needle <+: t := by
  simp [OccursFirstAt]

@[simp] lemma occursFirstAt_cons_succ :
    OccursFirstAt needle (c :: t) (n + 1) ↔ ¬ needle <+: c :: t ∧ OccursFirstAt needle t n := by
  simp only [OccursFirstAt, List.drop_succ_cons, Nat.forall_lt_succ_left, List.drop_zero]
  exact and_left_comm

/-- A first occurrence that ends the text is the first one also if the text goes on. -/
lemma OccursFirstAt.append (h : OccursFirstAt needle (t ++ needle) t.length) (u : Text) :
    OccursFirstAt needle (t ++ (needle ++ u)) t.length := by
  refine ⟨by simp, fun m hm hprefix => h.2 m hm ?_⟩
  -- an earlier occurrence would end before the one at the end does
  rw [← List.append_assoc, List.drop_append_of_le_length (by simp; omega)] at hprefix
  refine List.prefix_of_prefix_length_le hprefix (List.prefix_append _ u) ?_
  simp only [List.length_drop, List.length_append]
  omega

lemma cutAt?_append_self (needle after : Text) :
    cutAt? needle (needle ++ after) = some ([], after) := by
  have hprefix : needle.isPrefixOf? (needle ++ after) = some after :=
    List.isPrefixOf?_eq_some_iff_append_eq.2 rfl
  cases ht : needle ++ after with
  | nil => rw [cutAt?, ← ht, hprefix]; rfl
  | cons c t => rw [cutAt?, ← ht, hprefix]

lemma cutAt?_cons_of_no_start (h : ¬ needle <+: c :: t) :
    cutAt? needle (c :: t)
      = (cutAt? needle t).map fun (before, after) => (c :: before, after) := by
  have hnone : needle.isPrefixOf? (c :: t) = none := Option.eq_none_iff_forall_ne_some.2
    fun after hafter => h ⟨after, List.isPrefixOf?_eq_some_iff_append_eq.1 hafter⟩
  rw [cutAt?, hnone]

/-- **A text is cut around the first occurrence** of the text that was searched for. -/
theorem cutAt?_eq_some_iff : cutAt? needle t = some (before, after) ↔
    t = before ++ (needle ++ after) ∧ OccursFirstAt needle t before.length := by
  induction t generalizing before with
  | nil => cases before <;> cases needle <;> simp [cutAt?, eq_comm]
  | cons c t ih =>
      by_cases hstart : needle <+: c :: t
      · obtain ⟨rest, hrest⟩ := hstart
        rw [← hrest, cutAt?_append_self, hrest]
        cases before with
        | nil => simp [← hrest, eq_comm]
        | cons d before =>
            have hnot : ¬ OccursFirstAt needle (c :: t) (before.length + 1) := fun h =>
              (occursFirstAt_cons_succ.1 h).1 ⟨rest, hrest⟩
            simp [hnot]
      · rw [cutAt?_cons_of_no_start hstart]
        cases before with
        | nil => simp [hstart]
        | cons d before =>
            simp only [Option.map_eq_some_iff, Prod.mk.injEq, Prod.exists, List.cons.injEq,
              exists_eq_right_right, ih, List.cons_append, List.length_cons,
              occursFirstAt_cons_succ, hstart, not_false_eq_true, true_and]
            exact and_comm.trans and_assoc.symm

end Text

variable {word gloss before after base anchor : Text} {rs : List Run} {segments : List Segment}
  {p : Char → Prop}

/-! ## One anchor -/

lemma cutAtAnchor_of_cutAt?_eq_none (h : Text.cutAt? anchor gloss = none) :
    cutAtAnchor gloss anchor = (gloss, none) := by
  rw [cutAtAnchor, h]

lemma cutAtAnchor_of_cutAt?_eq_some (h : Text.cutAt? anchor gloss = some (before, after)) :
    cutAtAnchor gloss anchor = (before, if after = [] then none else some after) := by
  rw [cutAtAnchor, h]
  cases after <;> rfl

/-- Without gloss the runs pass as they are. -/
lemma alignRuns?_none (rs : List Run) :
    alignRuns? none rs = some (rs.map fun r => .literal r.text) := by
  cases rs <;> rfl

/-- An anchor that is missing ends the walk: the word in front of it takes the gloss. -/
lemma alignRuns?_of_cutAt?_eq_none (h : Text.cutAt? anchor gloss = none) :
    alignRuns? (some gloss) (⟨base, true⟩ :: ⟨anchor, false⟩ :: rs)
      = some (.ruby base gloss :: .literal anchor :: rs.map fun r => .literal r.text) := by
  simp only [alignRuns?, cutAtAnchor_of_cutAt?_eq_none h, alignRuns?_none, Option.map_some]

/-- An anchor that is found leaves the gloss in front of it to the word in front of it.  The walk
goes on with the gloss behind it, if there is any. -/
lemma alignRuns?_of_cutAt?_eq_some (h : Text.cutAt? anchor gloss = some (before, after)) :
    alignRuns? (some gloss) (⟨base, true⟩ :: ⟨anchor, false⟩ :: rs)
      = (alignRuns? (if after = [] then none else some after) rs).map fun rest =>
          .ruby base before :: .literal anchor :: rest := by
  rw [alignRuns?, cutAtAnchor_of_cutAt?_eq_some h]

/-! ## What becomes of the runs -/

/-- The text that a segment is read as: a word as its gloss, other text as it is. -/
def Segment.reading : Segment → Text
  | .ruby _ gloss => gloss
  | .literal text => text

/-- What becomes of a run while there is gloss: ideographs are annotated, an anchor stays. -/
inductive Run.Becomes : Run → Segment → Prop
  | ruby (base reading : Text) : Becomes ⟨base, true⟩ (.ruby base reading)
  | literal (text : Text) : Becomes ⟨text, false⟩ (.literal text)

/-- Segments that follow runs along a gloss, one for each run.  Up to some place ideographs are
annotated and anchors stay, and what stands there is read as the gloss.  Behind that place all runs
pass as they are. -/
def Follows (rs : List Run) (gloss : Text) (segments : List Segment) : Prop :=
  ∃ front back annotated, rs = front ++ back ∧
    segments = annotated ++ back.map (fun r => .literal r.text) ∧
    List.Forall₂ Run.Becomes front annotated ∧ annotated.flatMap Segment.reading = gloss

lemma follows_literals (rs : List Run) : Follows rs [] (rs.map fun r => .literal r.text) :=
  ⟨[], rs, [], rfl, rfl, .nil, rfl⟩

lemma follows_ruby (base gloss : Text) (rs : List Run) :
    Follows (⟨base, true⟩ :: rs) gloss (.ruby base gloss :: rs.map fun r => .literal r.text) :=
  ⟨[⟨base, true⟩], rs, [.ruby base gloss], rfl, rfl, .cons (.ruby base gloss) .nil,
    List.append_nil gloss⟩

lemma Follows.cons_anchor (h : Follows rs after segments) (base before anchor : Text) :
    Follows (⟨base, true⟩ :: ⟨anchor, false⟩ :: rs) (before ++ (anchor ++ after))
      (.ruby base before :: .literal anchor :: segments) := by
  obtain ⟨front, back, annotated, rfl, rfl, hbecomes, rfl⟩ := h
  exact ⟨⟨base, true⟩ :: ⟨anchor, false⟩ :: front, back,
    .ruby base before :: .literal anchor :: annotated, rfl, rfl,
    .cons (.ruby base before) (.cons (.literal anchor) hbecomes), rfl⟩

/-- Without the readings the runs remain. -/
lemma Follows.flatMap_base (h : Follows rs gloss segments) :
    segments.flatMap Segment.base = rs.flatMap Run.text := by
  obtain ⟨front, back, annotated, rfl, rfl, hbecomes, -⟩ := h
  have hfront : annotated.flatMap Segment.base = front.flatMap Run.text := by
    induction hbecomes with
    | nil => rfl
    | cons hr _ ih => cases hr <;> simp [Segment.base, ih]
  rw [List.flatMap_append, List.flatMap_append, hfront, List.flatMap_map]
  rfl

/-- **A walk that succeeds** follows the runs. -/
lemma follows_of_alignRuns? (hrs : Interleaved rs)
    (h : alignRuns? (some gloss) rs = some segments) : Follows rs gloss segments := by
  induction hrs generalizing gloss segments with
  | nil => exact absurd h (by simp [alignRuns?])
  | base text =>
      obtain rfl := Option.some.inj h
      exact follows_ruby text gloss []
  | @anchor base anchor rs hrs ih =>
      cases hcut : Text.cutAt? anchor gloss with
      | none =>
          rw [alignRuns?_of_cutAt?_eq_none hcut] at h
          obtain rfl := Option.some.inj h
          exact follows_ruby base gloss (⟨anchor, false⟩ :: rs)
      | some cut =>
          obtain ⟨before, after⟩ := cut
          obtain ⟨rfl, _⟩ := Text.cutAt?_eq_some_iff.1 hcut
          rw [alignRuns?_of_cutAt?_eq_some hcut] at h
          obtain ⟨rest, hrest, rfl⟩ := Option.map_eq_some_iff.1 h
          refine Follows.cons_anchor ?_ base before anchor
          split_ifs at hrest with hafter
          · -- the gloss ends with this anchor
            obtain rfl := Option.some.inj ((alignRuns?_none rs).symm.trans hrest)
            exact hafter ▸ follows_literals rs
          · exact ih hrest

/-! ## Gloss that is left over -/

/-- The anchors among runs. -/
def anchors (rs : List Run) : List Text := (rs.filter fun r => !r.logographic).map Run.text

/-- The anchors occur in a gloss in turn, each of them taken at its first place in what the one
before it left.  The last one leaves `rest`. -/
inductive FoundInTurn : List Text → Text → Text → Prop
  | nil (rest : Text) : FoundInTurn [] rest rest
  | cons {anchor before after rest : Text} {anchors : List Text}
      (hfirst : Text.OccursFirstAt anchor (before ++ (anchor ++ after)) before.length)
      (hrest : FoundInTurn anchors after rest) :
      FoundInTurn (anchor :: anchors) (before ++ (anchor ++ after)) rest

lemma FoundInTurn.suffix {texts : List Text} {rest : Text} (h : FoundInTurn texts gloss rest) :
    rest <:+ gloss := by
  induction h with
  | nil rest => exact List.suffix_refl rest
  | cons _ _ ih => exact (ih.trans (List.suffix_append _ _)).trans (List.suffix_append _ _)

/-- Anchors are found in turn if the first one is found and the others are found behind it. -/
lemma foundInTurn_cons_iff {texts : List Text} {rest : Text} :
    FoundInTurn (anchor :: texts) gloss rest ↔
      ∃ before after, Text.cutAt? anchor gloss = some (before, after) ∧
        FoundInTurn texts after rest := by
  constructor
  · rintro (_ | ⟨hfirst, hrest⟩)
    exact ⟨_, _, Text.cutAt?_eq_some_iff.2 ⟨rfl, hfirst⟩, hrest⟩
  · rintro ⟨before, after, hcut, hrest⟩
    obtain ⟨rfl, hfirst⟩ := Text.cutAt?_eq_some_iff.1 hcut
    exact .cons hfirst hrest

/-- **A walk fails** exactly if the runs end in an anchor, all anchors are found in turn, and the
last one leaves some gloss. -/
lemma alignRuns?_eq_none_iff (hrs : Interleaved rs) (hgloss : rs = [] → gloss ≠ []) :
    alignRuns? (some gloss) rs = none ↔ (∀ r ∈ rs.getLast?, ¬ r.logographic) ∧
      ∃ rest, rest ≠ [] ∧ FoundInTurn (anchors rs) gloss rest := by
  induction hrs generalizing gloss with
  | nil => exact ⟨fun _ => ⟨by simp, gloss, hgloss rfl, .nil gloss⟩, fun _ => rfl⟩
  | base text => simp [alignRuns?]
  | @anchor base anchor rs hrs ih =>
      have hlast : (∀ r ∈ (⟨base, true⟩ :: ⟨anchor, false⟩ :: rs).getLast?, ¬ r.logographic) ↔
          ∀ r ∈ rs.getLast?, ¬ r.logographic := by
        cases rs <;> simp
      have hanchors : anchors (⟨base, true⟩ :: ⟨anchor, false⟩ :: rs) = anchor :: anchors rs := rfl
      rw [hlast, hanchors]
      cases hcut : Text.cutAt? anchor gloss with
      | none =>
          rw [alignRuns?_of_cutAt?_eq_none hcut]
          simp [foundInTurn_cons_iff, hcut]
      | some cut =>
          obtain ⟨before, after⟩ := cut
          have hfound : ∀ rest, FoundInTurn (anchor :: anchors rs) gloss rest ↔
              FoundInTurn (anchors rs) after rest := by
            simp [foundInTurn_cons_iff, hcut]
          simp only [alignRuns?_of_cutAt?_eq_some hcut, Option.map_eq_none_iff, hfound]
          split_ifs with hafter
          · -- nothing is left for the other anchors, nor behind them
            subst hafter
            refine iff_of_false (by simp [alignRuns?_none]) ?_
            rintro ⟨_, rest, hne, hrest⟩
            exact hne (List.suffix_nil.1 hrest.suffix)
          · exact ih fun _ => hafter

/-! ## The alignment of a word -/

/-- A word that can be aligned starts with an ideographic run and an anchor. -/
lemma exists_runs_of_isAnchored (h : isAnchored word) : ∃ base anchor rs,
    runs word = ⟨base, true⟩ :: ⟨anchor, false⟩ :: rs ∧ Interleaved (runs word) := by
  have halternate := alternate_runs word
  rw [isAnchored] at h
  split at h
  · rename_i first second rs hruns
    rw [hruns] at halternate ⊢
    have hinterleaved := interleaved_of_alternate halternate (by simpa using h)
    cases hinterleaved with
    | anchor base anchor hrs => exact ⟨base, anchor, rs, rfl, .anchor base anchor hrs⟩
  · exact absurd h (by simp)

/-- A word can be aligned if it starts with an ideograph and not all of it are ideographs. -/
lemma isAnchored_iff : isAnchored word ↔
    word.head?.map isLogographic = some true ∧ ¬ ∀ c ∈ word, isLogographic c := by
  have halternate := alternate_runs word
  rw [← map_head?_runs, ← forall_mem_runs_iff, isAnchored]
  generalize runs word = rs at halternate ⊢
  rcases rs with _ | ⟨first, _ | ⟨second, rs⟩⟩
  · simp
  · simp
  · obtain ⟨hne, _⟩ := List.isChain_cons_cons.1 halternate
    simp only [List.head?_cons, Option.map_some, Option.some.injEq, List.forall_mem_cons]
    exact ⟨fun hfirst => ⟨hfirst, fun hall => hne (hfirst.trans hall.2.1.symm)⟩, And.left⟩

lemma not_isAnchored_iff : ¬ isAnchored word ↔
    word = [] ∨ (∃ c ∈ word.head?, ¬ isLogographic c) ∨ ∀ c ∈ word, isLogographic c := by
  rw [isAnchored_iff, not_and_or, not_not]
  cases word with
  | nil => simp
  | cons c word => simp

/-- A word that can be aligned is annotated as a whole exactly if its runs do not use up the gloss. -/
lemma align_eq_whole_iff_alignRuns? (h : isAnchored word) :
    align word gloss = [.ruby word gloss] ↔ alignRuns? (some gloss) (runs word) = none := by
  obtain ⟨base, anchor, rs, hruns, _⟩ := exists_runs_of_isAnchored h
  rw [align, if_pos h]
  cases hwalk : alignRuns? (some gloss) (runs word) with
  | none => simp
  | some segments =>
      -- a walk past an anchor returns two segments at least
      rw [hruns, alignRuns?] at hwalk
      obtain ⟨rest, _, rfl⟩ := Option.map_eq_some_iff.1 hwalk
      simp

/-- A word that can be aligned is annotated as a whole exactly if all its anchors are found in turn,
the last one at its end, and leave some gloss. -/
lemma align_eq_whole_iff (h : isAnchored word) : align word gloss = [.ruby word gloss] ↔
    (∃ r ∈ (runs word).getLast?, ¬ r.logographic) ∧
      ∃ rest, rest ≠ [] ∧ FoundInTurn (anchors (runs word)) gloss rest := by
  obtain ⟨base, anchor, rs, hruns, hinterleaved⟩ := exists_runs_of_isAnchored h
  have hne : runs word ≠ [] := by simp [hruns]
  have hlast : (∃ r ∈ (runs word).getLast?, ¬ r.logographic) ↔
      ∀ r ∈ (runs word).getLast?, ¬ r.logographic := by
    simp [List.getLast?_eq_getLast_of_ne_nil hne]
  rw [align_eq_whole_iff_alignRuns? h, hlast,
    ← alignRuns?_eq_none_iff hinterleaved fun hnil => absurd hnil hne]

/-- A word is annotated as a whole, or the segments follow its runs. -/
lemma align_eq_whole_or_follows (word gloss : Text) :
    align word gloss = [.ruby word gloss] ∨ Follows (runs word) gloss (align word gloss) := by
  rw [align]
  split_ifs with hanchored
  · obtain ⟨_, _, _, _, hinterleaved⟩ := exists_runs_of_isAnchored hanchored
    cases hwalk : alignRuns? (some gloss) (runs word) with
    | none => exact Or.inl rfl
    | some segments => exact Or.inr (follows_of_alignRuns? hinterleaved hwalk)
  · exact Or.inl rfl

/-- A walk along a gloss starts with an annotation. -/
lemma exists_ruby_alignRuns? (h : alignRuns? (some gloss) rs = some segments) :
    ∃ base reading rest, segments = .ruby base reading :: rest := by
  cases rs with
  | nil => exact absurd h (by simp [alignRuns?])
  | cons base rs =>
      cases rs with
      | nil => exact ⟨base.text, gloss, [], (Option.some.inj h).symm⟩
      | cons anchor rs =>
          rw [alignRuns?] at h
          obtain ⟨rest, _, rfl⟩ := Option.map_eq_some_iff.1 h
          exact ⟨_, _, _, rfl⟩

/-- Alignment starts with an annotation. -/
lemma exists_ruby_align (word gloss : Text) :
    ∃ base reading rest, align word gloss = .ruby base reading :: rest := by
  rw [align]
  split_ifs
  · cases hruns : alignRuns? (some gloss) (runs word) with
    | none => exact ⟨word, gloss, [], rfl⟩
    | some segments => exact exists_ruby_alignRuns? hruns
  · exact ⟨word, gloss, [], rfl⟩

/-- **Alignment keeps the word.** -/
theorem flatMap_base_align (word gloss : Text) :
    (align word gloss).flatMap Segment.base = word := by
  rcases align_eq_whole_or_follows word gloss with hwhole | hfollows
  · simp [hwhole, Segment.base]
  · rw [hfollows.flatMap_base, flatMap_text_runs]

/-- **Alignment invents nothing.**  Stretches of the gloss annotate stretches of the word. -/
theorem mem_align {s : Segment} (hs : s ∈ align word gloss) :
    s.base <:+: word ∧ ∀ base reading, s = .ruby base reading → reading <:+: gloss := by
  have hinfix : ∀ (f : Segment → Text) {segments : List Segment}, s ∈ segments →
      f s <:+: segments.flatMap f :=
    fun f _ h => List.infix_of_mem_flatten (List.mem_map_of_mem h)
  refine ⟨flatMap_base_align word gloss ▸ hinfix Segment.base hs, ?_⟩
  rintro base reading rfl
  rcases align_eq_whole_or_follows word gloss with hwhole | hfollows
  · rw [hwhole, List.mem_singleton, Segment.ruby.injEq] at hs
    rw [hs.2]
  · obtain ⟨_, back, annotated, _, halign, _, rfl⟩ := hfollows
    rw [halign, List.mem_append] at hs
    rcases hs with hs | hs
    · exact hinfix Segment.reading hs
    · simp at hs

lemma over_align (hword : ∀ c ∈ word, p c) (hgloss : ∀ c ∈ gloss, p c) :
    ∀ s ∈ align word gloss, s.Over p := by
  intro s hs
  obtain ⟨hbase, hreading⟩ := mem_align hs
  cases s with
  | ruby base reading =>
      exact ⟨fun c hc => hword c (hbase.subset hc),
        fun c hc => hgloss c ((hreading base reading rfl).subset hc)⟩
  | literal text => exact fun c hc => hword c (hbase.subset hc)

/-- **Alignment keeps the gloss.**  The segments up to some place are read as the gloss, and those
behind it are text without annotation. -/
theorem align_reading (word gloss : Text) : ∃ front back, align word gloss = front ++ back ∧
    front.flatMap Segment.reading = gloss ∧ ∀ s ∈ back, ∃ text, s = .literal text := by
  rcases align_eq_whole_or_follows word gloss with hwhole | hfollows
  · exact ⟨[.ruby word gloss], [], hwhole, by simp [Segment.reading], by simp⟩
  · obtain ⟨_, back, annotated, _, halign, _, hreading⟩ := hfollows
    refine ⟨annotated, back.map fun r => .literal r.text, halign, hreading, fun s hs => ?_⟩
    obtain ⟨r, _, rfl⟩ := List.mem_map.1 hs
    exact ⟨r.text, rfl⟩

/-- **Alignment follows the runs.**  Either the whole word is one annotation, or there is one
segment for each run: annotations and anchors up to some place, and text behind it.  Either way an
annotation comes first and the word remains.  The whole word is one annotation if it is empty,
starts with another character than an ideograph, holds ideographs only, or ends in an anchor while
all anchors are found in turn and leave some gloss; and in no other case. -/
theorem align_runs (word gloss : Text) :
    (align word gloss = [.ruby word gloss] ∨ Follows (runs word) gloss (align word gloss)) ∧
    (∃ base reading rest, align word gloss = .ruby base reading :: rest) ∧
    (align word gloss).flatMap Segment.base = word ∧
    (align word gloss = [.ruby word gloss] ↔
      word = [] ∨ (∃ c ∈ word.head?, ¬ isLogographic c) ∨ (∀ c ∈ word, isLogographic c) ∨
        (∃ r ∈ (runs word).getLast?, ¬ r.logographic) ∧
          ∃ rest, rest ≠ [] ∧ FoundInTurn (anchors (runs word)) gloss rest) := by
  refine ⟨align_eq_whole_or_follows word gloss, exists_ruby_align word gloss,
    flatMap_base_align word gloss, ?_⟩
  by_cases hanchored : isAnchored word
  · have hnot := mt not_isAnchored_iff.2 (not_not_intro hanchored)
    simp only [not_or] at hnot
    simp only [hnot, false_or, align_eq_whole_iff hanchored]
  · rw [align, if_neg hanchored]
    refine iff_of_true rfl ?_
    rcases not_isAnchored_iff.1 hanchored with hnil | hhead | hall
    · exact Or.inl hnil
    · exact Or.inr (Or.inl hhead)
    · exact Or.inr (Or.inr (Or.inl hall))

-- The gloss ends with `べ`, so what is behind passes as it is; in the second word `り` is found twice
-- and leaves `ね`, which no run can take.
example : align "食べ物を".toList "たべ".toList
    = [.ruby ['食'] ['た'], .literal ['べ'], .literal ['物'], .literal ['を']] := by
  decide +kernel
example : align "取り扱り".toList "とりありね".toList
    = [.ruby "取り扱り".toList "とりありね".toList] := by
  decide +kernel

end Furigana
