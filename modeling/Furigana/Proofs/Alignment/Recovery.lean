import Mathlib
import Furigana.Proofs.Alignment
import Furigana.Proofs.Detection

/-!
# Recovering the readings of a word

Who writes a gloss has a reading for each ideographic run of the word in mind, and writes the
anchors between them as they are.  Alignment recovers these readings, whatever they are, as long as
each anchor shows where the reading in front of it ends.  The gloss that is put in brackets behind a
word with kana is divided by another rule, from its end, and this rule finds the same reading.

* `Legible` — readings and anchors in turn, each anchor where it is found first;
* `runs_of_legible`, `alignRuns?_of_legible` — the runs of such a word, the walk along its gloss;
* **`align_of_legible`** — alignment returns the readings;
* `stripSuffix_append`, `distribute_of_not_isSeparator` — what a detected word takes as its reading;
* **`align_eq_split`** — both rules divide the gloss of a word with kana alike.
-/

namespace Furigana

variable {base anchor reading suffix t : Text} {segments rest : List Segment}

/-! ## Readings and anchors -/

/-- The run that a segment stands for. -/
def Segment.run : Segment → Run
  | .ruby base _ => ⟨base, true⟩
  | .literal text => ⟨text, false⟩

/-- Ideographs under their readings and anchors in turn.  No anchor occurs earlier than behind its
reading, and ideographs at the end have a reading that is not empty. -/
inductive Legible : List Segment → Prop
  | nil : Legible []
  | last {base reading : Text} (hbase : (Run.mk base true).IsUniform) (hreading : reading ≠ []) :
      Legible [.ruby base reading]
  | anchor {base reading anchor : Text} {rest : List Segment}
      (hbase : (Run.mk base true).IsUniform) (hanchor : (Run.mk anchor false).IsUniform)
      (hfirst : Text.OccursFirstAt anchor (reading ++ anchor) reading.length)
      (hrest : Legible rest) :
      Legible (.ruby base reading :: .literal anchor :: rest)

lemma Legible.isUniform (h : Legible segments) : ∀ r ∈ segments.map Segment.run, r.IsUniform := by
  induction h with
  | nil => simp
  | last hbase _ => simpa [Segment.run] using hbase
  | anchor hbase hanchor _ _ ih =>
      exact List.forall_mem_cons.2 ⟨hbase, List.forall_mem_cons.2 ⟨hanchor, ih⟩⟩

lemma Legible.interleaved (h : Legible segments) : Interleaved (segments.map Segment.run) := by
  induction h with
  | nil => exact .nil
  | last => exact .base _
  | anchor _ _ _ _ ih => exact .anchor _ _ ih

/-- Something is read wherever something is written. -/
lemma Legible.eq_nil_of_reading (h : Legible segments)
    (hnil : segments.flatMap Segment.reading = []) : segments = [] := by
  cases h with
  | nil => rfl
  | last _ hreading => exact absurd (by simpa [Segment.reading] using hnil) hreading
  | anchor _ hanchor _ _ =>
      simp only [List.flatMap_cons, List.append_eq_nil_iff] at hnil
      exact absurd hnil.2.1 hanchor.ne_nil

/-- The runs of the word are what its segments stand for. -/
lemma runs_of_legible (h : Legible segments) :
    runs (segments.flatMap Segment.base) = segments.map Segment.run := by
  have htext : (segments.map Segment.run).flatMap Run.text = segments.flatMap Segment.base := by
    rw [List.flatMap_map]
    exact List.flatMap_congr fun s _ => by cases s <;> rfl
  rw [← htext]
  exact runs_flatMap_text h.isUniform h.interleaved.alternate

/-- **The walk along the gloss** takes every reading as it was meant. -/
lemma alignRuns?_of_legible (h : Legible segments) (hne : segments ≠ []) :
    alignRuns? (some (segments.flatMap Segment.reading)) (segments.map Segment.run)
      = some segments := by
  induction h with
  | nil => exact absurd rfl hne
  | last => simp [alignRuns?, Segment.reading, Segment.run]
  | @anchor base reading anchor rest hbase hanchor hfirst hrest ih =>
      have hcut : Text.cutAt? anchor (reading ++ (anchor ++ rest.flatMap Segment.reading))
          = some (reading, rest.flatMap Segment.reading) :=
        Text.cutAt?_eq_some_iff.2 ⟨rfl, hfirst.append _⟩
      have hwalk : alignRuns? (if rest.flatMap Segment.reading = [] then none
          else some (rest.flatMap Segment.reading)) (rest.map Segment.run) = some rest := by
        split_ifs with hnil
        · -- nothing is read behind the last anchor
          rw [hrest.eq_nil_of_reading hnil]
          rfl
        · refine ih ?_
          rintro rfl
          exact hnil rfl
      simp only [List.flatMap_cons, List.map_cons, Segment.reading, Segment.run]
      rw [alignRuns?_of_cutAt?_eq_some hcut, hwalk, Option.map_some]

lemma align_of_legible_anchor (h : Legible (.ruby base reading :: .literal anchor :: rest)) :
    align ((Segment.ruby base reading :: .literal anchor :: rest).flatMap Segment.base)
      ((Segment.ruby base reading :: .literal anchor :: rest).flatMap Segment.reading)
      = .ruby base reading :: .literal anchor :: rest := by
  have hanchored : isAnchored
      ((Segment.ruby base reading :: .literal anchor :: rest).flatMap Segment.base) := by
    rw [isAnchored, runs_of_legible h]
    rfl
  rw [align, if_pos hanchored, runs_of_legible h, alignRuns?_of_legible h (by simp),
    Option.getD_some]

/-- **Alignment recovers the readings.**  The word is written with ideographs and anchors in turn,
at least one anchor among them, and the gloss with the readings of the ideographs and the same
anchors.  If no anchor occurs earlier than behind its reading, each run gets its reading back. -/
theorem align_of_legible (h : Legible segments) (hanchor : ∃ anchor, .literal anchor ∈ segments) :
    align (segments.flatMap Segment.base) (segments.flatMap Segment.reading) = segments := by
  obtain ⟨anchor, hmem⟩ := hanchor
  cases h with
  | nil => exact absurd hmem (by simp)
  | last => exact absurd hmem (by simp)
  | anchor hbase hanchor hfirst hrest =>
      exact align_of_legible_anchor (.anchor hbase hanchor hfirst hrest)

/-- An empty reading, an anchor that could overlap itself and is repeated right behind its place,
and ideographs at the end. -/
theorem align_of_legible_repeated :
    ∃ segments, Legible segments ∧ (∃ anchor, .literal anchor ∈ segments) ∧
      segments = [.ruby ['取'] [], .literal ['り', 'り'], .ruby ['扱'] ['り', 'り'], .literal ['い'],
        .ruby ['物'] ['も', 'の']] ∧
      segments.flatMap Segment.base = "取りり扱い物".toList ∧
      segments.flatMap Segment.reading = "りりりりいもの".toList ∧
      align (segments.flatMap Segment.base) (segments.flatMap Segment.reading) = segments := by
  let segments : List Segment := [.ruby ['取'] [], .literal ['り', 'り'], .ruby ['扱'] ['り', 'り'],
    .literal ['い'], .ruby ['物'] ['も', 'の']]
  have hlegible : Legible segments := by
    have hbase : ∀ c ∈ ['取', '扱', '物'], (Run.mk [c] true).IsUniform := by
      simp [Run.isUniform_iff, isLogographic, logographicRanges, CharRange.contains]
    have hother : ∀ t ∈ [['り', 'り'], ['い']], (Run.mk t false).IsUniform := by
      simp [Run.isUniform_iff, isLogographic, logographicRanges, CharRange.contains]
    refine .anchor (hbase _ (by simp)) (hother _ (by simp)) (by decide) ?_
    refine .anchor (hbase _ (by simp)) (hother _ (by simp)) (by decide) ?_
    exact .last (hbase _ (by simp)) (by simp)
  have hanchor : ∃ anchor, .literal anchor ∈ segments := ⟨['い'], by simp [segments]⟩
  exact ⟨segments, hlegible, hanchor, rfl, rfl, rfl, align_of_legible hlegible hanchor⟩

/-! ## Kana behind a word -/

lemma dropShared_append_self (t u : Text) : dropShared (t ++ u) t = u := by
  induction t with
  | nil => cases u <;> rfl
  | cons c t ih => rw [List.cons_append, dropShared, if_pos rfl, ih]

/-- What stands in front of the suffix remains, unless that is nothing. -/
lemma stripSuffix_append (ht : t ≠ []) (suffix : Text) : stripSuffix (t ++ suffix) suffix = t := by
  rw [stripSuffix, List.reverse_append, dropShared_append_self]
  cases hrev : t.reverse with
  | nil => exact absurd (List.reverse_eq_nil_iff.1 hrev) ht
  | cons c rest => rw [← List.reverse_reverse t, hrev]

lemma distribute_of_not_isSeparator (h : ∀ c ∈ reading, ¬ isSeparator c) (base : Text) :
    distribute base reading = [.ruby base reading] := by
  have hnone : reading.any isSeparator = false := by simpa using h
  rw [distribute, hasReadings, hnone]
  rfl

/-- **Both rules agree on a word with kana behind it.**  If the kana occur in the gloss first where
the reading of the ideographs ends, both alignment and distribution give the ideographs this reading
and leave the kana as they are. -/
theorem align_eq_split (hbase : base ≠ []) (hideographs : ∀ c ∈ base, isLogographic c)
    (hsuffix : suffix ≠ []) (hkana : ∀ c ∈ suffix, isAnnotation c) (hreading : reading ≠ [])
    (hseparators : ∀ c ∈ reading, ¬ isSeparator c)
    (hfirst : Text.OccursFirstAt suffix (reading ++ suffix) reading.length) :
    align (base ++ suffix) (reading ++ suffix) = split base suffix (reading ++ suffix) ∧
      split base suffix (reading ++ suffix) = [.ruby base reading, .literal suffix] := by
  have hother : ∀ c ∈ suffix, isLogographic c = false := fun c hc => by
    simpa using not_isLogographic_of_isAnnotation (hkana c hc)
  have hlegible : Legible [.ruby base reading, .literal suffix] :=
    .anchor ⟨hbase, hideographs⟩ ⟨hsuffix, hother⟩ hfirst .nil
  have halign : align (base ++ suffix) (reading ++ suffix)
      = [.ruby base reading, .literal suffix] := by
    simpa [Segment.base, Segment.reading] using align_of_legible_anchor hlegible
  have hsplit : split base suffix (reading ++ suffix)
      = [.ruby base reading, .literal suffix] := by
    rw [split, stripSuffix_append hreading, distribute_of_not_isSeparator hseparators]
    simp [hsuffix]
  exact ⟨halign.trans hsplit.symm, hsplit⟩

/-- A suffix that repeats its first kana, behind a reading that ends with this kana. -/
theorem align_eq_split_repeated :
    ∃ base suffix reading : Text, base ++ suffix = "食べべる".toList ∧
      reading ++ suffix = "たべべべる".toList ∧ base ≠ [] ∧ (∀ c ∈ base, isLogographic c) ∧
      suffix ≠ [] ∧ (∀ c ∈ suffix, isAnnotation c) ∧ reading ≠ [] ∧
      (∀ c ∈ reading, ¬ isSeparator c) ∧
      Text.OccursFirstAt suffix (reading ++ suffix) reading.length ∧
      align (base ++ suffix) (reading ++ suffix) = split base suffix (reading ++ suffix) ∧
      split base suffix (reading ++ suffix)
        = [.ruby ['食'] ['た', 'べ'], .literal ['べ', 'べ', 'る']] := by
  have hideographs : ∀ c ∈ ['食'], isLogographic c := by
    simp [isLogographic, logographicRanges, CharRange.contains]
  have hkana : ∀ c ∈ ['べ', 'べ', 'る'], isAnnotation c := by
    simp [annotationRanges, isAnnotation, CharRange.contains]
  have hseparators : ∀ c ∈ ['た', 'べ'], ¬ isSeparator c := by simp [isSeparator, separators]
  have hfirst : Text.OccursFirstAt ['べ', 'べ', 'る'] (['た', 'べ'] ++ ['べ', 'べ', 'る']) 2 := by
    decide
  exact ⟨['食'], ['べ', 'べ', 'る'], ['た', 'べ'], rfl, rfl, by simp, hideographs, by simp, hkana,
    by simp, hseparators, hfirst,
    align_eq_split (by simp) hideographs (by simp) hkana (by simp) hseparators hfirst⟩

end Furigana
