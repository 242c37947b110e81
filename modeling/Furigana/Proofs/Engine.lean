import Mathlib
import Furigana.Engine
import Furigana.Proofs.Cache

/-!
# Keeping compiled lists changes no output

An engine is shared between calls, and a call may add to its caches or flush them.  Every engine
that calls can lead to is `Consistent`: its caches hold what compiling their keys gives, and no more
than the limit.  `Consistent.render` concludes that a call returns `Options.render`, whatever calls
came before it.
-/

namespace Furigana.Engine

/-- The calls that can have been made on a shared engine, one after the other. -/
def run : Engine → List (Options × Text) → List Text × Engine
  | e, [] => ([], e)
  | e, (o, t) :: calls =>
      let (out, e) := e.render o t
      let (outs, e) := run e calls
      (out :: outs, e)

/-- An engine that calls have led to. -/
inductive Reachable : Engine → Prop
  | fresh : Reachable fresh
  | render {e : Engine} (h : Reachable e) (o : Options) (t : Text) : Reachable (e.render o t).2

/-- Both caches hold what compiling their keys gives, and no more than the limit. -/
structure Consistent (e : Engine) : Prop where
  forms : e.forms.Sound Form.compileList Cache.defaultLimit
  pairs : e.pairs.Sound Brackets.compileList Cache.defaultLimit

lemma consistent_fresh : Consistent fresh :=
  ⟨Cache.sound_empty _ (by decide), Cache.sound_empty _ (by decide)⟩

variable {e : Engine}

/-- Fetching the forms gives those that the options ask for and leaves the pairs alone. -/
lemma Consistent.fetchForms (h : Consistent e) (o : Options) :
    (e.fetchForms o).1 = o.activeForms ∧ Consistent (e.fetchForms o).2 ∧
      (e.fetchForms o).2.pairs = e.pairs := by
  rw [Engine.fetchForms, Options.activeForms]
  cases o.enabled with
  | false => exact ⟨rfl, h, rfl⟩
  | true =>
      obtain ⟨hvalue, hsound⟩ := h.forms.fetch (by decide) o.forms
      exact ⟨hvalue, ⟨hsound, h.pairs⟩, rfl⟩

/-- Fetching the pairs gives those that the options ask for. -/
lemma Consistent.fetchPairs (h : Consistent e) (o : Options) :
    (e.fetchPairs o).1 = o.activePairs ∧ Consistent (e.fetchPairs o).2 := by
  rw [Engine.fetchPairs, Options.activePairs]
  cases o.detects with
  | false => exact ⟨rfl, h⟩
  | true =>
      obtain ⟨hvalue, hsound⟩ := h.pairs.fetch (by decide) o.autoBracketSets
      exact ⟨hvalue, ⟨h.forms, hsound⟩⟩

/-- **One call.**  It returns what the options ask for, and the caches stay consistent. -/
theorem Consistent.render (h : Consistent e) (o : Options) (t : Text) :
    (e.render o t).1 = o.render t ∧ Consistent (e.render o t).2 := by
  obtain ⟨hforms, hmid, _⟩ := h.fetchForms o
  obtain ⟨hpairs, hend⟩ := hmid.fetchPairs o
  refine ⟨?_, hend⟩
  rw [Options.render, ← hforms, ← hpairs]
  rfl

lemma Reachable.consistent (h : Reachable e) : Consistent e := by
  induction h with
  | fresh => exact consistent_fresh
  | render _ o t ih => exact (ih.render o t).2

/-- A call on a shared engine returns what the options ask for. -/
lemma Reachable.render_eq (h : Reachable e) (o : Options) (t : Text) :
    (e.render o t).1 = o.render t :=
  (h.consistent.render o t).1

lemma fetchForms_of_disabled {o : Options} (ho : o.enabled = false) : e.fetchForms o = ([], e) := by
  rw [Engine.fetchForms, ho]
  rfl

lemma fetchPairs_of_not_detects {o : Options} (ho : o.detects = false) :
    e.fetchPairs o = ([], e) := by
  rw [Engine.fetchPairs, ho]
  rfl

/-- A disabled call leaves the engine as it is. -/
lemma render_of_disabled {o : Options} (ho : o.enabled = false) (t : Text) :
    (e.render o t).2 = e := by
  have hdetects : o.detects = false := by rw [Options.detects, ho, Bool.false_and]
  rw [Engine.render, fetchForms_of_disabled ho]
  show (e.fetchPairs o).2 = e
  rw [fetchPairs_of_not_detects hdetects]

/-- A strict call leaves the compiled pairs as they are. -/
lemma Consistent.pairs_of_strict (h : Consistent e) {o : Options} (ho : o.strictMode = true)
    (t : Text) : (e.render o t).2.pairs = e.pairs := by
  have hdetects : o.detects = false := by rw [Options.detects, ho, Bool.not_true, Bool.and_false]
  show ((e.fetchForms o).2.fetchPairs o).2.pairs = e.pairs
  rw [fetchPairs_of_not_detects hdetects]
  exact (h.fetchForms o).2.2

/-- What the options ask for, pass by pass. -/
lemma render_eq_unescape (o : Options) (t : Text) :
    o.render t = unescape o.fallback (if o.enabled then
      (if o.strictMode then [] else Brackets.compileList o.autoBracketSets).foldl
        (fun t b => b.apply o.patternMatching o.fallback t)
        ((Form.compileList o.forms).foldl (fun t f => f.apply o.patternMatching o.fallback t) t)
      else t) := by
  rw [Options.render, convert, Options.activeForms, Options.activePairs, Options.detects]
  cases o.enabled <;> cases o.strictMode <;> rfl

/-- The outputs of a run from a consistent engine. -/
lemma Consistent.run (h : Consistent e) (calls : List (Options × Text)) :
    (e.run calls).1 = calls.map (fun call => call.1.render call.2) ∧
      Consistent (e.run calls).2 := by
  induction calls generalizing e with
  | nil => exact ⟨rfl, h⟩
  | cons call calls ih =>
      obtain ⟨hout, hnext⟩ := h.render call.1 call.2
      obtain ⟨houts, hend⟩ := ih hnext
      refine ⟨?_, hend⟩
      rw [List.map_cons, ← hout, ← houts]
      rfl

lemma Reachable.run (h : Reachable e) (calls : List (Options × Text)) :
    Reachable (e.run calls).2 := by
  induction calls generalizing e with
  | nil => exact h
  | cons call calls ih => exact ih (h.render call.1 call.2)

/-- **Caching is invisible.**  Every call of every run on a shared engine returns what a fresh
engine returns: the passes of the options in declaration order, then the resolved escapes.  In every
engine that calls lead to, each value is the one compiled from its key and neither cache exceeds the
limit; a disabled call changes nothing, and a strict one does not touch the pairs. -/
theorem run_fresh_eq_map (calls : List (Options × Text)) :
    (fresh.run calls).1 = calls.map (fun call => (fresh.render call.1 call.2).1) ∧
    Reachable (fresh.run calls).2 ∧
    (∀ o t, (fresh.render o t).1 = unescape o.fallback (if o.enabled then
      (if o.strictMode then [] else Brackets.compileList o.autoBracketSets).foldl
        (fun t b => b.apply o.patternMatching o.fallback t)
        ((Form.compileList o.forms).foldl (fun t f => f.apply o.patternMatching o.fallback t) t)
      else t)) ∧
    ∀ e, Reachable e →
      Consistent e ∧
      (∀ o t, (e.render o t).1 = (fresh.render o t).1) ∧
      (∀ o t, o.enabled = false → (e.render o t).2 = e) ∧
      (∀ o t, o.strictMode = true → (e.render o t).2.pairs = e.pairs) := by
  have hfresh : ∀ o t, (fresh.render o t).1 = o.render t := Reachable.fresh.render_eq
  refine ⟨?_, Reachable.fresh.run calls, ?_, ?_⟩
  · rw [(consistent_fresh.run calls).1]
    exact List.map_congr_left fun call _ => (hfresh call.1 call.2).symm
  · intro o t
    rw [hfresh, render_eq_unescape]
  · intro e he
    refine ⟨he.consistent, ?_, ?_, ?_⟩
    · intro o t
      rw [he.render_eq, hfresh]
    · intro o t ho
      exact render_of_disabled ho t
    · intro o t ho
      exact he.consistent.pairs_of_strict ho t

/-- A run of 65 configurations flushes the compiled forms, and even then no output changes. -/
theorem run_past_a_flush :
    ∃ (calls : List (Options × Text)) (o : Options) (t : Text),
      calls.length = 65 ∧ (fresh.run calls).2.forms.size = 1 ∧ o.enabled = false ∧
      o.strictMode = true ∧
      (fresh.run calls).1 = calls.map (fun call => (fresh.render call.1 call.2).1) ∧
      ((fresh.run calls).2.render o t).1 = (fresh.render o t).1 ∧
      ((fresh.run calls).2.render o t).2 = (fresh.run calls).2 ∧
      ((fresh.run calls).2.render o t).2.pairs = (fresh.run calls).2.pairs := by
  let calls : List (Options × Text) :=
    (List.range 65).map fun n => ({ Options.standard with forms := Text.decimal n }, ['字'])
  let o : Options := { Options.standard with enabled := false, strictMode := true }
  obtain ⟨hout, hreach, _, hall⟩ := run_fresh_eq_map calls
  obtain ⟨_, heq, hdisabled, hstrict⟩ := hall _ hreach
  exact ⟨calls, o, [], rfl, by decide +kernel, rfl, rfl, hout, heq o [], hdisabled o [] rfl,
    hstrict o [] rfl⟩

end Furigana.Engine
