import Mathlib
import Furigana.Proofs.Segments

/-!
# Where the characters of a gloss go

A gloss that is found behind a word may hold a reading for each character of the base, with
separators between them, and it may end as the kana behind the base do.  This file accounts for all
of it: the shared end is dropped, the separators are taken out where the readings are handed out one
by one, and everything else stands in the annotations, in order.

* `Readings`, `Readings.IsCut` — readings with the separators between them;
* `Readings.pieces_text`, `Readings.exists_isCut` — cutting a gloss at its separators undoes joining
  its readings, and any gloss can be cut;
* `spread_concat`, `glosses_spread` — handing out readings;
* **`distribute_readings`** — one reading for each character, and the last one for all that remain;
* `IsSharedEnd`, `exists_isSharedEnd` — the end that a gloss shares with the kana;
* **`split_reading`** — base, kana and gloss are all kept.
-/

namespace Furigana

/-! ## Readings and separators -/

/-- Readings as they are written one after the other: all but the last one with the separator that
stands behind them. -/
structure Readings where
  leading : List (Text × Char)
  last : Text

namespace Readings

variable {r : Readings}

/-- The readings without separators. -/
def parts (r : Readings) : List Text := r.leading.map Prod.fst ++ [r.last]

/-- The separators between the readings. -/
def dividers (r : Readings) : Text := r.leading.map Prod.snd

/-- The gloss that holds the readings. -/
def text (r : Readings) : Text := r.leading.flatMap (fun e => e.1 ++ [e.2]) ++ r.last

/-- Separators stand between the readings, and nowhere else. -/
structure IsCut (r : Readings) : Prop where
  divider : ∀ e ∈ r.leading, isSeparator e.2
  leading : ∀ e ∈ r.leading, ∀ c ∈ e.1, ¬ isSeparator c
  last : ∀ c ∈ r.last, ¬ isSeparator c

@[simp] lemma length_parts (r : Readings) : r.parts.length = r.leading.length + 1 := by
  simp [parts]

lemma text_cons (e : Text × Char) (leading : List (Text × Char)) (last : Text) :
    (Readings.mk (e :: leading) last).text = e.1 ++ e.2 :: (Readings.mk leading last).text := by
  simp [text]

lemma isCut_cons {e : Text × Char} {leading : List (Text × Char)} {last : Text} :
    (Readings.mk (e :: leading) last).IsCut ↔
      isSeparator e.2 ∧ (∀ c ∈ e.1, ¬ isSeparator c) ∧ (Readings.mk leading last).IsCut := by
  constructor
  · rintro ⟨hdivider, hleading, hlast⟩
    rw [List.forall_mem_cons] at hdivider hleading
    exact ⟨hdivider.1, hleading.1, hdivider.2, hleading.2, hlast⟩
  · rintro ⟨hdivider, hfirst, h⟩
    exact ⟨List.forall_mem_cons.2 ⟨hdivider, h.divider⟩,
      List.forall_mem_cons.2 ⟨hfirst, h.leading⟩, h.last⟩

/-- **Cutting undoes joining.** -/
lemma pieces_text (h : r.IsCut) : r.text.pieces isSeparator = r.parts := by
  obtain ⟨leading, last⟩ := r
  rw [Text.pieces_eq_splitOnP]
  induction leading with
  | nil => simpa [text, parts] using List.splitOnP_eq_singleton (by simpa using h.last)
  | cons e leading ih =>
      obtain ⟨hdivider, hfirst, htail⟩ := isCut_cons.1 h
      rw [text_cons, List.splitOnP_append_cons_of_forall_mem (by simpa using hfirst) e.2 hdivider,
        ih htail]
      rfl

/-- The separators of a gloss are the ones between its readings. -/
lemma filter_text (h : r.IsCut) : r.text.filter isSeparator = r.dividers := by
  obtain ⟨leading, last⟩ := r
  induction leading with
  | nil => simpa [text, dividers] using h.last
  | cons e leading ih =>
      obtain ⟨hdivider, hfirst, htail⟩ := isCut_cons.1 h
      have hnone : e.1.filter isSeparator = [] := by simpa using hfirst
      rw [text_cons, List.filter_append, hnone, List.filter_cons_of_pos hdivider, ih htail]
      rfl

/-- Every gloss can be cut. -/
lemma exists_isCut (t : Text) : ∃ r : Readings, r.IsCut ∧ r.text = t := by
  induction t with
  | nil => exact ⟨⟨[], []⟩, ⟨by simp, by simp, by simp⟩, rfl⟩
  | cons c t ih =>
      obtain ⟨⟨leading, last⟩, hcut, rfl⟩ := ih
      by_cases hc : isSeparator c
      · exact ⟨⟨([], c) :: leading, last⟩, isCut_cons.2 ⟨hc, by simp, hcut⟩, by simp [text_cons]⟩
      · -- the character belongs to the first reading, which may be the last one
        rcases leading with _ | ⟨e, leading⟩
        · exact ⟨⟨[], c :: last⟩, ⟨by simp, by simp, List.forall_mem_cons.2 ⟨hc, hcut.last⟩⟩, rfl⟩
        · obtain ⟨hdivider, hfirst, htail⟩ := isCut_cons.1 hcut
          exact ⟨⟨(c :: e.1, e.2) :: leading, last⟩,
            isCut_cons.2 ⟨hdivider, List.forall_mem_cons.2 ⟨hc, hfirst⟩, htail⟩,
            by simp [text_cons]⟩

/-- Readings are handed out if there are several and enough characters for them. -/
lemma hasReadings_text (h : r.IsCut) (base : Text) :
    hasReadings base r.text ↔ r.leading ≠ [] ∧ r.leading.length < base.length := by
  have hany : r.text.any isSeparator ↔ r.text.filter isSeparator ≠ [] := by simp
  rw [hasReadings, Bool.and_eq_true, decide_eq_true_eq, hany, filter_text h, pieces_text h,
    length_parts, Nat.succ_le_iff, dividers, Ne, List.map_eq_nil_iff]

end Readings

/-! ## Handing out readings -/

/-- The gloss of an annotation. -/
def Segment.gloss? : Segment → Option Text
  | .ruby _ gloss => some gloss
  | .literal _ => none

/-- The glosses of the annotations, in order. -/
def glosses (segments : List Segment) : List Text := segments.filterMap Segment.gloss?

@[simp] lemma glosses_cons_ruby (base gloss : Text) (segments : List Segment) :
    glosses (.ruby base gloss :: segments) = gloss :: glosses segments := rfl

@[simp] lemma glosses_append_literal (segments : List Segment) (text : Text) :
    glosses (segments ++ [.literal text]) = glosses segments := by
  simp [glosses, Segment.gloss?]

/-- Each character takes one reading, as long as another one follows. -/
lemma spread_concat {base : Text} {readings : List Text} (last : Text)
    (h : readings.length < base.length) :
    spread base (readings ++ [last])
      = List.zipWith (fun c reading => .ruby [c] reading) base readings
        ++ [.ruby (base.drop readings.length) last] := by
  induction readings generalizing base with
  | nil => simp [spread]
  | cons reading readings ih =>
      cases base with
      | nil => simp at h
      | cons c base =>
          have hrest : readings.length < base.length := by simpa using h
          rw [List.cons_append, spread, ih hrest]
          · simp
          · simp

/-- What is handed out are the readings, in order. -/
lemma glosses_spread {base : Text} {readings : List Text} (hne : readings ≠ [])
    (h : readings.length ≤ base.length) : glosses (spread base readings) = readings := by
  fun_induction spread base readings with
  | case1 base reading => rfl
  | case2 c base reading readings hmore ih =>
      have hlength : readings.length ≤ base.length := by simpa using h
      rw [glosses_cons_ruby, ih hmore hlength]
  | case3 base readings hone hcons =>
      obtain ⟨reading, rest, rfl⟩ := List.exists_cons_of_ne_nil hne
      cases base with
      | nil => simp at h
      | cons c base => exact absurd rfl (hcons c base reading rest rfl)

/-- **Distribution hands out the readings.**  Let readings be joined by separators to a gloss.  If
there is a character for each of them, each reading but the last stands over one character, and the
last one over all that remain, of which there is at least one.  If there are more readings than
characters, or only one reading, the whole base carries the whole gloss. -/
theorem distribute_readings {r : Readings} (h : r.IsCut) (base : Text) :
    (r.parts.length ≤ base.length → base.drop r.leading.length ≠ [] ∧
      distribute base r.text
        = List.zipWith (fun c reading => .ruby [c] reading) base (r.leading.map Prod.fst)
          ++ [.ruby (base.drop r.leading.length) r.last]) ∧
    (base.length < r.parts.length → distribute base r.text = [.ruby base r.text]) ∧
    (r.leading = [] → distribute base r.text = [.ruby base r.text]) := by
  have hwhole : ¬ hasReadings base r.text → distribute base r.text = [.ruby base r.text] := by
    intro hnot
    rw [distribute, if_neg hnot]
  rw [Readings.hasReadings_text h] at hwhole
  rw [Readings.length_parts]
  refine ⟨fun hfits => ⟨by simp; omega, ?_⟩, fun hmany => hwhole (by omega),
    fun hnil => hwhole (by simp [hnil])⟩
  by_cases hnil : r.leading = []
  · -- one reading over all characters
    rw [hwhole (by simp [hnil]), Readings.text, hnil]
    simp
  · have hhanded : hasReadings base r.text :=
      (Readings.hasReadings_text h base).2 ⟨hnil, by omega⟩
    rw [distribute, if_pos hhanded, Readings.pieces_text h, Readings.parts,
      spread_concat r.last (by simpa using hfits), List.length_map]

/-- Three readings, an empty one between two separators, over three characters and over two, and a
single reading. -/
theorem distribute_readings_adjacent :
    ∃ r s : Readings, r.text = "とう.・と".toList ∧ s.text = "とう".toList ∧ r.IsCut ∧ s.IsCut ∧
      distribute "東京都".toList r.text
        = [.ruby ['東'] ['と', 'う'], .ruby ['京'] [], .ruby ['都'] ['と']] ∧
      distribute "東京".toList r.text = [.ruby "東京".toList r.text] ∧
      distribute "東京".toList s.text = [.ruby "東京".toList s.text] := by
  let r : Readings := ⟨[(['と', 'う'], '.'), ([], '・')], ['と']⟩
  let s : Readings := ⟨[], ['と', 'う']⟩
  have hr : r.IsCut := ⟨by simp [r, isSeparator, separators], by simp [r, isSeparator, separators],
    by simp [r, isSeparator, separators]⟩
  have hs : s.IsCut := ⟨by simp [s], by simp [s], by simp [s, isSeparator, separators]⟩
  obtain ⟨hfits, _, _⟩ := distribute_readings hr "東京都".toList
  obtain ⟨_, hmany, _⟩ := distribute_readings hr "東京".toList
  obtain ⟨_, _, hone⟩ := distribute_readings hs "東京".toList
  exact ⟨r, s, rfl, rfl, hr, hs, (hfits (by decide)).2, hmany (by decide), hone rfl⟩

/-! ## The end that gloss and kana share -/

/-- The longest text that ends both of two texts: what ends both of them is what ends it. -/
def IsSharedEnd (t u shared : Text) : Prop := ∀ v, v <:+ shared ↔ v <:+ t ∧ v <:+ u

/-- What is dropped from the start of a text is the longest start that it shares. -/
lemma exists_dropShared_eq (t u : Text) :
    ∃ shared, t = shared ++ dropShared t u ∧ ∀ v, v <+: shared ↔ v <+: t ∧ v <+: u := by
  fun_induction dropShared t u with
  | case1 t c u ih =>
      obtain ⟨shared, ht, hshared⟩ := ih
      refine ⟨c :: shared, congrArg (c :: ·) ht, fun v => ?_⟩
      cases v with
      | nil => simp
      | cons d v =>
          simp only [List.cons_prefix_cons, hshared v]
          tauto
  | case2 c t d u hne =>
      refine ⟨[], rfl, fun v => ?_⟩
      cases v with
      | nil => simp
      | cons e v =>
          simp only [List.cons_prefix_cons, List.prefix_nil]
          constructor
          · simp
          · rintro ⟨⟨rfl, _⟩, rfl, _⟩
            exact absurd rfl hne
  | case3 t u hnot =>
      -- one of the two is empty
      refine ⟨[], rfl, fun v => ?_⟩
      cases t with
      | nil => simp +contextual
      | cons c t =>
          cases u with
          | nil => simp +contextual
          | cons d u => exact (hnot c t d u rfl rfl).elim

/-- **A gloss loses the end that it shares with the kana**, unless that is all of it. -/
lemma exists_isSharedEnd (gloss suffix : Text) :
    ∃ shared, IsSharedEnd gloss suffix shared ∧
      gloss = stripSuffix gloss suffix ++ if shared = gloss then [] else shared := by
  obtain ⟨shared, hgloss, hshared⟩ := exists_dropShared_eq gloss.reverse suffix.reverse
  refine ⟨shared.reverse, fun v => ?_, ?_⟩
  · rw [← List.reverse_prefix, List.reverse_reverse, hshared, List.reverse_prefix,
      List.reverse_prefix]
  · have hsplit : gloss = (dropShared gloss.reverse suffix.reverse).reverse ++ shared.reverse := by
      rw [← List.reverse_append, ← hgloss, List.reverse_reverse]
    rw [stripSuffix]
    generalize dropShared gloss.reverse suffix.reverse = rest at hsplit
    cases rest with
    | nil =>
        have heq : shared.reverse = gloss := hsplit.symm
        rw [if_pos heq, List.append_nil]
    | cons c rest =>
        have hne : shared.reverse ≠ gloss := by
          intro heq
          have hlength := congrArg List.length hsplit
          rw [heq, List.length_append, List.length_reverse, List.length_cons] at hlength
          omega
        rwa [if_neg hne]

/-! ## The whole of the gloss -/

/-- A gloss that is distributed is put together again from what stands over the base, with its
separators where there is more than one annotation. -/
lemma exists_readings_distribute (base gloss : Text) :
    ∃ r : Readings, r.text = gloss ∧ glosses (distribute base gloss) = r.parts ∧
      (r.leading = [] ∨ r.dividers = gloss.filter isSeparator) := by
  rw [distribute]
  split_ifs with h
  · obtain ⟨r, hcut, rfl⟩ := Readings.exists_isCut gloss
    refine ⟨r, rfl, ?_, Or.inr (Readings.filter_text hcut).symm⟩
    rw [Readings.hasReadings_text hcut] at h
    rw [Readings.pieces_text hcut]
    exact glosses_spread (by simp [Readings.parts]) (by rw [Readings.length_parts]; omega)
  · exact ⟨⟨[], gloss⟩, rfl, rfl, Or.inl rfl⟩

/-- **Distribution keeps base, kana and gloss.**  The segments make up the base and the kana.  Off the
gloss comes the longest end that it shares with the kana, unless that is all of it.  What remains is
put together again from the glosses of the annotations, in order: with its separators between them,
or as it is if there is one annotation only. -/
theorem split_reading (base suffix gloss : Text) :
    (split base suffix gloss).flatMap Segment.base = base ++ suffix ∧
    ∃ (r : Readings) (shared : Text), IsSharedEnd gloss suffix shared ∧
      gloss = r.text ++ (if shared = gloss then [] else shared) ∧
      glosses (split base suffix gloss) = r.parts ∧
      (r.leading = [] ∨ r.dividers = r.text.filter isSeparator) := by
  obtain ⟨shared, hshared, hgloss⟩ := exists_isSharedEnd gloss suffix
  obtain ⟨r, htext, hparts, hdividers⟩ :=
    exists_readings_distribute base (stripSuffix gloss suffix)
  rw [← htext] at hgloss hdividers
  refine ⟨flatMap_base_split base suffix gloss, r, shared, hshared, hgloss, ?_, hdividers⟩
  rw [← hparts, split]
  cases suffix <;> simp

-- The kana end the gloss behind a separator, and they are all of the gloss.
example : split "話合".toList "い".toList "はな.あい".toList
    = [.ruby ['話'] "はな".toList, .ruby ['合'] ['あ'], .literal ['い']] := by
  decide +kernel
example : split ['食'] "べる".toList ['る'] = [.ruby ['食'] ['る'], .literal "べる".toList] := by
  decide +kernel

end Furigana
