import Mathlib
import Furigana.Scan

/-!
# Passes over a text

A pass scans a text for occurrences and replaces those that no escape guards.  This file states what
searching and scanning do, so that no later file opens `runThen` or `scan` again.

* `runThen_eq_some`, `runThen_append` — greedy search takes the longest run after which the rest of
  the search succeeds;
* `scan_cons`, `scan_append_found` — a step of a scan, at a plain character and at an occurrence;
* `pass` — the text that one pass leaves, with an equation for either step;
* `pass_append` — where no occurrence reaches beyond a place, a pass works on either side alone;
* `prefix_of_prefix_pass` — up to its first replacement a pass changes nothing;
* `pass_induction` — induction along a scan.
-/

namespace Furigana

/-! ## Greedy runs -/

section Runs

variable {α : Type} {p : Char → Bool} {next : Text → Option α}

/-- The search fails only if it fails behind every run. -/
lemma runThen_eq_none {t : Text} (h : runThen p next t = none) {x y : Text} (ht : t = x ++ y)
    (hx : x ≠ []) (hp : ∀ c ∈ x, p c) : next y = none := by
  subst ht
  induction x with
  | nil => exact absurd rfl hx
  | cons c x ih =>
      rw [List.cons_append, runThen, if_pos (hp c (by simp))] at h
      cases hrun : runThen p next (x ++ y) with
      | some r => rw [hrun] at h; simp at h
      | none =>
          rw [hrun] at h
          cases x with
          | nil => simpa using h
          | cons d x => exact ih (by simp) (fun e he => hp e (List.mem_cons_of_mem _ he)) hrun

/-- **What greedy search finds.**  The run consists of the class, the rest of the search succeeds
behind it, and it fails behind every longer run. -/
theorem runThen_eq_some {t run : Text} {a : α} (h : runThen p next t = some (run, a)) :
    run ≠ [] ∧ (∀ c ∈ run, p c) ∧ ∃ rest, t = run ++ rest ∧ next rest = some a ∧
      ∀ x y, rest = x ++ y → x ≠ [] → (∀ c ∈ x, p c) → next y = none := by
  induction t generalizing run with
  | nil => simp [runThen] at h
  | cons c t ih =>
      rw [runThen] at h
      split_ifs at h with hc
      cases hrun : runThen p next t with
      | none =>
          rw [hrun] at h
          obtain ⟨b, hb, heq⟩ := Option.map_eq_some_iff.1 h
          obtain ⟨rfl, rfl⟩ := Prod.mk.inj heq
          refine ⟨by simp, by simpa using hc, t, rfl, hb, ?_⟩
          intro x y hxy hx hp
          exact runThen_eq_none hrun hxy hx hp
      | some found =>
          rw [hrun] at h
          obtain ⟨rfl, rfl⟩ := Prod.mk.inj (Option.some.inj h)
          obtain ⟨_, hp, rest, rfl, hnext, hmax⟩ := ih hrun
          refine ⟨by simp, ?_, rest, rfl, hnext, hmax⟩
          simpa using ⟨hc, hp⟩

/-- No run behind which the search succeeds is longer than the one that is found. -/
lemma length_le_of_runThen {t run : Text} {a : α} (h : runThen p next t = some (run, a))
    {run' rest : Text} (ht : t = run' ++ rest) (hp : ∀ c ∈ run', p c) (hnext : next rest ≠ none) :
    run'.length ≤ run.length := by
  obtain ⟨_, _, y, rfl, _, hmax⟩ := runThen_eq_some h
  rcases List.append_eq_append_iff.1 ht with ⟨x, rfl, hy⟩ | ⟨x, rfl, _⟩
  · rcases eq_or_ne x [] with rfl | hx
    · simp
    · exact absurd (hmax x rest hy hx fun c hc => hp c (List.mem_append_right _ hc)) hnext
  · simp

/-- A run behind which the search succeeds is the one that is taken, if the search fails behind
every longer one. -/
theorem runThen_append {run rest : Text} {a : α} (hrun : run ≠ []) (hp : ∀ c ∈ run, p c)
    (hnext : next rest = some a)
    (hmax : ∀ x y, rest = x ++ y → x ≠ [] → (∀ c ∈ x, p c) → next y = none) :
    runThen p next (run ++ rest) = some (run, a) := by
  have hrest : runThen p next rest = none := by
    cases h : runThen p next rest with
    | none => rfl
    | some r =>
        obtain ⟨hne, hpr, y, hy, hsome, _⟩ := runThen_eq_some h
        rw [hmax r.1 y hy hne hpr] at hsome
        exact absurd hsome (by simp)
  induction run with
  | nil => exact absurd rfl hrun
  | cons c run ih =>
      rw [List.cons_append, runThen, if_pos (hp c (by simp))]
      cases run with
      | nil => rw [List.nil_append, hrest]; simp [hnext]
      | cons d run =>
          rw [ih (by simp) fun e he => hp e (List.mem_cons_of_mem _ he)]

/-- If the class ends where the rest of the search succeeds, there is nothing to try out. -/
lemma runThen_append_of_stop {run rest : Text} {a : α} (hrun : run ≠ []) (hp : ∀ c ∈ run, p c)
    (hnext : next rest = some a) (hstop : ∀ c ∈ rest.head?, ¬ p c) :
    runThen p next (run ++ rest) = some (run, a) := by
  refine runThen_append hrun hp hnext ?_
  intro x y hxy hx hpx
  cases x with
  | nil => exact absurd rfl hx
  | cons c x => exact absurd (hpx c (by simp)) (hstop c (by simp [hxy]))

/-- A character outside the class cuts the search off from what stands behind it: only the text that
is left over gets longer. -/
lemma runThen_append_cons_map {c : Char} (hc : ¬ p c) {t : Text} {extend : α → α}
    (hnext : ∀ x, next (x ++ c :: t) = (next x).map extend) (x : Text) :
    runThen p next (x ++ c :: t) = (runThen p next x).map fun (run, a) => (run, extend a) := by
  induction x with
  | nil => simp [runThen, hc]
  | cons d x ih =>
      rw [List.cons_append, runThen, runThen, ih, hnext]
      cases runThen p next x <;> cases next x <;> split_ifs <;> rfl

/-- The same for a search that leaves nothing over. -/
lemma runThen_append_cons {c : Char} (hc : ¬ p c) {t : Text}
    (hnext : ∀ x, next (x ++ c :: t) = next x) (x : Text) :
    runThen p next (x ++ c :: t) = runThen p next x := by
  have hmap : ∀ x, next (x ++ c :: t) = (next x).map id := fun x => by simp [hnext]
  rw [runThen_append_cons_map hc hmap]
  exact Option.map_id'

/-- The same for a run that may be empty. -/
lemma runOrNoneThen_append_cons {c : Char} (hc : ¬ p c) {t : Text}
    (hnext : ∀ x, next (x ++ c :: t) = next x) (x : Text) :
    runOrNoneThen p next (x ++ c :: t) = runOrNoneThen p next x := by
  rw [runOrNoneThen, runOrNoneThen, runThen_append_cons hc hnext, hnext]

/-- What the rest of the search yields may be changed before or after. -/
lemma runThen_map {β : Type} (φ : α → β) (t : Text) :
    runThen p (fun t => (next t).map φ) t
      = (runThen p next t).map fun (run, found) => (run, φ found) := by
  induction t with
  | nil => rfl
  | cons c t ih =>
      rw [runThen, runThen, ih]
      cases runThen p next t <;> cases next t <;> split_ifs <;> rfl

/-- The same for a run that may be empty. -/
lemma runOrNoneThen_map {β : Type} (φ : α → β) (t : Text) :
    runOrNoneThen p (fun t => (next t).map φ) t
      = (runOrNoneThen p next t).map fun (run, found) => (run, φ found) := by
  rw [runOrNoneThen, runOrNoneThen, runThen_map]
  cases runThen p next t <;> cases next t <;> rfl

/-- What is found with a run that may be empty. -/
lemma runOrNoneThen_eq_some {t run : Text} {a : α} (h : runOrNoneThen p next t = some (run, a)) :
    (∀ c ∈ run, p c) ∧ ∃ rest, t = run ++ rest ∧ next rest = some a := by
  rw [runOrNoneThen] at h
  cases hrun : runThen p next t with
  | some r =>
      rw [hrun] at h
      obtain rfl := Option.some.inj h
      obtain ⟨_, hp, rest, ht, hnext, _⟩ := runThen_eq_some hrun
      exact ⟨hp, rest, ht, hnext⟩
  | none =>
      rw [hrun, Option.none_or] at h
      obtain ⟨b, hb, heq⟩ := Option.map_eq_some_iff.1 h
      obtain ⟨rfl, rfl⟩ := Prod.mk.inj heq
      exact ⟨by simp, t, rfl, hb⟩

/-- A run that ends its class is taken, also if it is empty. -/
lemma runOrNoneThen_append_of_stop {run rest : Text} {a : α} (hp : ∀ c ∈ run, p c)
    (hnext : next rest = some a) (hstop : ∀ c ∈ rest.head?, ¬ p c) :
    runOrNoneThen p next (run ++ rest) = some (run, a) := by
  cases run with
  | nil =>
      have hrest : runThen p next rest = none := by
        cases rest with
        | nil => rfl
        | cons c rest => simp [runThen, hstop c (by simp)]
      rw [List.nil_append, runOrNoneThen, hrest, hnext]
      rfl
  | cons c run =>
      rw [runOrNoneThen, runThen_append_of_stop (by simp) hp hnext hstop]
      rfl

/-- The run of a class at the start of a text can be read off it. -/
lemma run_append_inj {u v x y : Text} (hu : ∀ c ∈ u, p c) (hv : ∀ c ∈ v, p c)
    (hx : ∀ c ∈ x.head?, ¬ p c) (hy : ∀ c ∈ y.head?, ¬ p c) (h : u ++ x = v ++ y) :
    u = v ∧ x = y := by
  have hspan : ∀ w z : Text, (∀ c ∈ w, p c) → (∀ c ∈ z.head?, ¬ p c) →
      (w ++ z).takeWhile p = w := by
    intro w z hw hz
    rw [List.takeWhile_append_of_pos hw]
    cases z with
    | nil => simp
    | cons c z => simp [hz c rfl]
  have heq : u = v := by rw [← hspan u x hu hx, h, hspan v y hv hy]
  subst heq
  exact ⟨rfl, List.append_cancel_left h⟩

/-- If a text starts with `u`, which holds no `c`, and has a `c` behind `m`, then `m` starts with
`u`. -/
lemma exists_append_of_notMem {c : Char} {u v m t : Text} (hc : c ∉ u)
    (h : u ++ v = m ++ c :: t) : ∃ m', m = u ++ m' ∧ v = m' ++ c :: t := by
  rcases List.append_eq_append_iff.1 h with ⟨m', rfl, hv⟩ | ⟨w, rfl, hw⟩
  · exact ⟨m', rfl, hv⟩
  · cases w with
    | nil => exact ⟨[], by simp, hw.symm⟩
    | cons d w =>
        obtain ⟨rfl, _⟩ := List.cons.inj hw
        exact absurd (by simp) hc

/-- If a text ends with `v`, which holds no `c`, and has a `c` behind `m`, then the `c` stands before
`v`. -/
lemma exists_cons_of_notMem {c : Char} {u v m t : Text} (hc : c ∉ v)
    (h : u ++ v = m ++ c :: t) : ∃ k, u = m ++ c :: k ∧ t = k ++ v := by
  rcases List.append_eq_append_iff.1 h with ⟨k, _, hv⟩ | ⟨k, rfl, hk⟩
  · exact absurd (by simp [hv]) hc
  · cases k with
    | nil =>
        rw [List.nil_append] at hk
        exact absurd (by simp [← hk]) hc
    | cons d k =>
        obtain ⟨rfl, ht⟩ := List.cons.inj hk
        exact ⟨k, rfl, ht⟩

/-- A text without the character `c` occurs at the start of a text before `c` or not at all. -/
lemma isPrefixOf?_append_cons {c : Char} {t u : Text} (hu : c ∉ u) (x : Text) :
    u.isPrefixOf? (x ++ c :: t) = (u.isPrefixOf? x).map (· ++ c :: t) := by
  induction u generalizing x with
  | nil => cases x <;> rfl
  | cons d u ih =>
      have hd : d ≠ c := fun h => hu (h ▸ List.mem_cons_self)
      cases x with
      | nil => simp [List.isPrefixOf?, hd]
      | cons e x =>
          rw [List.cons_append, List.isPrefixOf?, List.isPrefixOf?,
            ih (fun h => hu (List.mem_cons_of_mem _ h))]
          split_ifs <;> rfl

end Runs

/-! ## Lists taken apart at a member -/

/-- What holds of a list at each member holds of a longer one if it holds at the first member and,
with that in front, at the others. -/
lemma forall_split_cons {α : Type} {p : List α → α → List α → Prop} {x : α} {l : List α}
    (hx : p [] x l) (hl : ∀ front y rest, l = front ++ y :: rest → p (x :: front) y rest) :
    ∀ front y rest, x :: l = front ++ y :: rest → p front y rest := by
  intro front y rest heq
  cases front with
  | nil =>
      obtain ⟨rfl, rfl⟩ := List.cons.inj heq
      exact hx
  | cons first front =>
      obtain ⟨rfl, hrest⟩ := List.cons.inj heq
      exact hl front y rest hrest

/-! ## Rewriting -/

lemma isEscaped_iff {before : Option Char} {matched : Text} :
    isEscaped before matched = true ↔ escapeChar ∈ matched ∨ before = some escapeChar := by
  simp [isEscaped]

section Rewriting

variable {α : Type} {replace : α → Text}

lemma rewrite_append (pieces pieces' : List (Piece α)) :
    rewrite replace (pieces ++ pieces') = rewrite replace pieces ++ rewrite replace pieces' :=
  List.flatMap_append

/-- Plain characters stay. -/
lemma rewrite_map_plain (u : Text) : rewrite replace (u.map .plain) = u := by
  induction u with
  | nil => rfl
  | cons c u ih =>
      rw [List.map_cons, ← List.singleton_append, rewrite_append, ih]
      rfl

end Rewriting

/-! ## Passes -/

section Passes

variable {α : Type} {find : Text → Option (α × Text)} {replace : α → Text}

/-- A search that finds a non-empty start of the text. -/
def IsSearch (find : Text → Option (α × Text)) : Prop :=
  ∀ t a matched, find t = some (a, matched) → matched ≠ [] ∧ ∃ rest, t = matched ++ rest

/-- The character in front of what follows `t`, if `before` stands in front of `t`. -/
def behind (before : Option Char) (t : Text) : Option Char := t.getLast?.or before

@[simp] lemma behind_nil (before : Option Char) : behind before [] = before := rfl

lemma behind_none (t : Text) : behind none t = t.getLast? := Option.or_none

@[simp] lemma behind_append (before : Option Char) (t u : Text) :
    behind before (t ++ u) = behind (behind before t) u := by
  rw [behind, behind, behind, List.getLast?_append, Option.or_assoc]

lemma behind_cons (before : Option Char) (c : Char) (t : Text) :
    behind before (c :: t) = behind (some c) t := by
  rw [← List.singleton_append, behind_append]
  rfl

lemma behind_of_ne_nil (before : Option Char) {t : Text} (h : t ≠ []) :
    behind before t = t.getLast? := by
  rw [behind, List.getLast?_eq_getLast_of_ne_nil h]
  rfl

@[simp] lemma scan_nil (before : Option Char) : scan find before [] = [] := by
  rw [scan]

lemma scan_cons {c : Char} {t : Text} (h : find (c :: t) = none) (before : Option Char) :
    scan find before (c :: t) = .plain c :: scan find (some c) t := by
  rw [scan, h]

/-- The search goes on behind an occurrence. -/
lemma scan_append_found {matched t : Text} {a : α} (h : find (matched ++ t) = some (a, matched))
    (hne : matched ≠ []) (before : Option Char) :
    scan find before (matched ++ t)
      = .found (isEscaped before matched) matched a :: scan find (behind before matched) t := by
  obtain ⟨c, matched, rfl⟩ := List.exists_cons_of_ne_nil hne
  rw [behind_of_ne_nil before hne, List.cons_append, scan, ← List.cons_append, h]
  simp

/-- A stretch in which nothing is found is cut into its characters. -/
lemma scan_append_plain {t : Text} (before : Option Char) (u : Text)
    (hu : ∀ x, x ≠ [] → x <:+ u → find (x ++ t) = none) :
    scan find before (u ++ t) = u.map .plain ++ scan find (behind before u) t := by
  induction u generalizing before with
  | nil => rfl
  | cons c u ih =>
      have hstep : find (c :: (u ++ t)) = none := hu (c :: u) (by simp) (List.suffix_refl _)
      rw [List.cons_append, scan_cons hstep, behind_cons, List.map_cons,
        ih _ fun x hx hxu => hu x hx (hxu.trans (List.suffix_cons c u)), List.cons_append]

/-- The text that one pass leaves: `find` says what is replaced, and `before` stands in front. -/
def pass (find : Text → Option (α × Text)) (replace : α → Text) (before : Option Char) (t : Text) :
    Text :=
  rewrite replace (scan find before t)

@[simp] lemma pass_nil (before : Option Char) : pass find replace before [] = [] := by
  rw [pass, scan_nil]
  rfl

/-- A character at which nothing is found stays. -/
lemma pass_cons {c : Char} {t : Text} (h : find (c :: t) = none) (before : Option Char) :
    pass find replace before (c :: t) = c :: pass find replace (some c) t := by
  rw [pass, scan_cons h]
  rfl

/-- An occurrence is replaced unless an escape guards it. -/
lemma pass_append_found {matched t : Text} {a : α} (h : find (matched ++ t) = some (a, matched))
    (hne : matched ≠ []) (before : Option Char) :
    pass find replace before (matched ++ t)
      = (if isEscaped before matched then matched else replace a)
        ++ pass find replace (behind before matched) t := by
  rw [pass, scan_append_found h hne]
  rfl

/-- Induction along a scan: the end of the text, a character at which nothing is found, and an
occurrence. -/
theorem pass_induction (hfind : IsSearch find) {motive : Option Char → Text → Prop}
    (nil : ∀ before, motive before [])
    (plain : ∀ before c t, find (c :: t) = none → motive (some c) t → motive before (c :: t))
    (found : ∀ before matched t a, find (matched ++ t) = some (a, matched) → matched ≠ [] →
      motive (behind before matched) t → motive before (matched ++ t)) :
    ∀ before t, motive before t := by
  intro before t
  induction hn : t.length using Nat.strong_induction_on generalizing before t with
  | _ n ih =>
      cases t with
      | nil => exact nil before
      | cons c t =>
          cases h : find (c :: t) with
          | none => exact plain before c t h (ih t.length (by simp [← hn]) _ t rfl)
          | some r =>
              obtain ⟨a, matched⟩ := r
              obtain ⟨hne, rest, hrest⟩ := hfind _ _ _ h
              rw [hrest] at h ⊢
              refine found before matched rest a h hne (ih rest.length ?_ _ rest rfl)
              have := List.length_pos_iff.2 hne
              rw [← hn, hrest, List.length_append]
              omega

/-- **A pass is local.**  Where no search that starts in `u` looks beyond it, the two sides are
converted alone. -/
theorem pass_append (hfind : IsSearch find) {t : Text} (before : Option Char) (u : Text)
    (hu : ∀ x, x ≠ [] → x <:+ u → find (x ++ t) = find x) :
    pass find replace before (u ++ t)
      = pass find replace before u ++ pass find replace (behind before u) t := by
  let motive (before : Option Char) (u : Text) : Prop :=
    (∀ x, x ≠ [] → x <:+ u → find (x ++ t) = find x) →
      pass find replace before (u ++ t)
        = pass find replace before u ++ pass find replace (behind before u) t
  refine pass_induction hfind (motive := motive) ?_ ?_ ?_ before u hu
  · intro before _
    simp
  · intro before c u hnone ih hu
    have hstep : find (c :: (u ++ t)) = none := by
      rw [← List.cons_append, hu _ (by simp) (List.suffix_refl _), hnone]
    rw [List.cons_append, pass_cons hstep, pass_cons hnone, behind_cons,
      ih fun x hx hxu => hu x hx (hxu.trans (List.suffix_cons c u)), List.cons_append]
  · intro before matched u a hsome hne ih hu
    have hstep : find (matched ++ (u ++ t)) = some (a, matched) := by
      rw [← List.append_assoc, hu _ (by simp [hne]) (List.suffix_refl _), hsome]
    rw [List.append_assoc, pass_append_found hstep hne, pass_append_found hsome hne, behind_append,
      ih fun x hx hxu => hu x hx (hxu.trans (List.suffix_append matched u)), List.append_assoc]

/-- A stretch in which nothing is found stays. -/
lemma pass_append_plain {t : Text} (before : Option Char) (u : Text)
    (hu : ∀ x, x ≠ [] → x <:+ u → find (x ++ t) = none) :
    pass find replace before (u ++ t) = u ++ pass find replace (behind before u) t := by
  rw [pass, scan_append_plain before u hu, rewrite_append, rewrite_map_plain, pass]

/-- Where every occurrence holds an escape, a pass changes nothing. -/
lemma pass_eq_self (hfind : IsSearch find) (before : Option Char) {t : Text}
    (h : ∀ x, x <:+ t → ∀ a matched, find x = some (a, matched) → escapeChar ∈ matched) :
    pass find replace before t = t := by
  let motive (before : Option Char) (t : Text) : Prop :=
    (∀ x, x <:+ t → ∀ a matched, find x = some (a, matched) → escapeChar ∈ matched) →
      pass find replace before t = t
  refine pass_induction hfind (motive := motive) ?_ ?_ ?_ before t h
  · intro before _
    exact pass_nil before
  · intro before c t hnone ih h
    rw [pass_cons hnone, ih fun x hx => h x (hx.trans (List.suffix_cons c t))]
  · intro before matched t a hsome hne ih h
    have hescaped : isEscaped before matched := by
      simp [isEscaped, h _ List.suffix_rfl a matched hsome]
    rw [pass_append_found hsome hne, if_pos hescaped,
      ih fun x hx => h x (hx.trans (List.suffix_append matched t))]

/-- **The start of what a pass leaves.**  If every replacement goes on with a `c` behind a start of
what it replaces, then a start without `c` of what a pass leaves is one of the text already. -/
lemma prefix_of_prefix_pass {c : Char} (hfind : IsSearch find)
    (hreplace : ∀ t a matched, find t = some (a, matched) →
      ∃ u y, u <+: matched ∧ replace a = u ++ c :: y)
    {before : Option Char} {t w : Text} (hw : c ∉ w) (h : w <+: pass find replace before t) :
    w <+: t := by
  refine pass_induction hfind (motive := fun before t =>
    ∀ w, c ∉ w → w <+: pass find replace before t → w <+: t) ?_ ?_ ?_ before t w hw h
  · intro before w _ h
    rwa [pass_nil] at h
  · intro before d t hnone ih w hw h
    rw [pass_cons hnone] at h
    cases w with
    | nil => exact List.nil_prefix
    | cons e w =>
        obtain ⟨rfl, h⟩ := List.cons_prefix_cons.1 h
        exact List.cons_prefix_cons.2 ⟨rfl, ih w (fun hc => hw (List.mem_cons_of_mem _ hc)) h⟩
  · intro before matched t a hsome hne ih w hw h
    rw [pass_append_found hsome hne] at h
    split_ifs at h
    · rcases List.prefix_or_prefix_of_prefix h (List.prefix_append matched _) with hm | ⟨v, rfl⟩
      · exact hm.trans (List.prefix_append matched t)
      · have hv : c ∉ v := fun hc => hw (List.mem_append_right _ hc)
        exact (List.prefix_append_right_inj matched).2
          (ih v hv ((List.prefix_append_right_inj matched).1 h))
    · obtain ⟨u, y, hu, hr⟩ := hreplace _ a matched hsome
      obtain ⟨z, hz⟩ := h
      rw [hr, List.append_assoc, List.cons_append] at hz
      obtain ⟨m, rfl, _⟩ := exists_append_of_notMem hw hz
      exact (List.prefix_append w m).trans (hu.trans (List.prefix_append matched t))

/-- Of the character in front it only matters whether it is the escape. -/
lemma pass_congr_before (hfind : IsSearch find) {before before' : Option Char}
    (h : before = some escapeChar ↔ before' = some escapeChar) (t : Text) :
    pass find replace before t = pass find replace before' t := by
  cases t with
  | nil => simp
  | cons c t =>
      cases hf : find (c :: t) with
      | none => rw [pass_cons hf, pass_cons hf]
      | some r =>
          obtain ⟨a, matched⟩ := r
          obtain ⟨hne, rest, hrest⟩ := hfind _ _ _ hf
          rw [hrest] at hf ⊢
          have hesc : isEscaped before matched = isEscaped before' matched := by
            rw [Bool.eq_iff_iff, isEscaped_iff, isEscaped_iff, h]
          rw [pass_append_found hf hne, pass_append_found hf hne, hesc, behind_of_ne_nil before hne,
            behind_of_ne_nil before' hne]

/-- A character in front that is no escape might as well not be there. -/
lemma pass_eq_pass_none (hfind : IsSearch find) {before : Option Char}
    (h : before ≠ some escapeChar) (t : Text) :
    pass find replace before t = pass find replace none t :=
  pass_congr_before hfind (by simp [h]) t

/-! ### Passes that start afresh

At the start of a text, and behind a character that is no escape, nothing stands in front. -/

lemma behind_ne_escape_of_ne_nil (before : Option Char) {t : Text} (hne : t ≠ [])
    (ht : escapeChar ∉ t) : behind before t ≠ some escapeChar := by
  rw [behind_of_ne_nil before hne]
  exact fun hlast => ht (List.mem_of_getLast? hlast)

lemma behind_ne_escape {before : Option Char} (h : before ≠ some escapeChar) {t : Text}
    (ht : escapeChar ∉ t) : behind before t ≠ some escapeChar := by
  cases t with
  | nil => exact h
  | cons c t => exact behind_ne_escape_of_ne_nil before (by simp) ht

/-- An occurrence without escapes is replaced, and the pass starts afresh behind it. -/
lemma pass_none_append_found (hfind : IsSearch find) {matched t : Text} {a : α}
    (h : find (matched ++ t) = some (a, matched)) (hne : matched ≠ [])
    (hesc : escapeChar ∉ matched) :
    pass find replace none (matched ++ t) = replace a ++ pass find replace none t := by
  have hfree : isEscaped none matched = false := by simp [isEscaped, hesc]
  rw [pass_append_found h hne, hfree,
    pass_eq_pass_none hfind (behind_ne_escape_of_ne_nil none hne hesc)]
  rfl

/-- An occurrence behind an escape stays. -/
lemma pass_escape_append_found (hfind : IsSearch find) {matched t : Text} {a : α}
    (h : find (matched ++ t) = some (a, matched)) (hne : matched ≠ [])
    (hesc : escapeChar ∉ matched) :
    pass find replace (some escapeChar) (matched ++ t) = matched ++ pass find replace none t := by
  have hguarded : isEscaped (some escapeChar) matched = true := by simp [isEscaped]
  rw [pass_append_found h hne, hguarded,
    pass_eq_pass_none hfind (behind_ne_escape_of_ne_nil _ hne hesc)]
  rfl

end Passes

end Furigana
