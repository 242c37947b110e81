import Mathlib
import Furigana.Proofs.Alignment
import Furigana.Proofs.Config.Validation
import Furigana.Proofs.Engine

/-!
# What a call reports

A notice is reported exactly if what it says has happened.  A malformed part was replaced, a form left
out, a list compiled or a cache flushed in this very call; or a word was found whose gloss its runs could
not use up, or a base with fewer characters than its gloss has readings.

Two things follow that hold for all notices at once.  The lists that a call compiles are all that it
changes about an engine, so an engine stays as it is exactly if no compilation is reported, and a second
call with the same options reports none.  And a call that compiles both lists reports a replacement
exactly if validation finds a malformed part.

* `CompilesForms`, `CompilesPairs`, `Happens` — what a notice says;
* `mem_stepNotices_iff`, `mem_fetchNotices_iff` — the notices of passes and of caches;
* **`mem_notices_iff`** — reported is what happens;
* `render_snd_eq_iff`, `not_isCompilation_of_mem_notices_render` — compilations and the engine;
* `invalid?_eq_none_iff_notices`, `notice_mem_notices_of_invalid?` — replacements and validation.
-/

namespace Furigana

/-! ## What a notice says -/

/-- The text that some of the forms leave. -/
def Options.afterForms (o : Options) (forms : List Form) (t : Text) : Text :=
  forms.foldl (fun t f => f.apply o.patternMatching o.fallback t) t

/-- The text that all forms and some of the pairs leave. -/
def Options.afterPairs (o : Options) (pairs : List Brackets) (t : Text) : Text :=
  pairs.foldl (fun t b => b.apply o.patternMatching o.fallback t) (o.afterForms o.activeForms t)

namespace Engine

variable {e : Engine} {o : Options} {t : Text} {n : Notice}

/-- Whether a call compiles its forms: it has some, and they are not kept from an earlier call. -/
def CompilesForms (e : Engine) (o : Options) : Prop := o.enabled ∧ e.forms.find? o.forms = none

/-- Whether a call compiles its pairs. -/
def CompilesPairs (e : Engine) (o : Options) : Prop :=
  o.detects ∧ e.pairs.find? o.autoBracketSets = none

/-- What a notice says has happened in a call. -/
inductive Happens (e : Engine) (o : Options) (t : Text) : Notice → Prop
  | fallbackReplaced (h : o.fallbackBrackets.length ≠ 2) :
      Happens e o t (.fallbackReplaced o.fallbackBrackets)
  | formReplaced {entry : Text} (hcompiles : e.CompilesForms o)
      (hentry : entry ∈ Form.entries o.forms) (h : ¬ Form.IsWritten entry) :
      Happens e o t (.formReplaced entry)
  | formTooLarge {entry : Text} (hcompiles : e.CompilesForms o)
      (hentry : entry ∈ Form.entries o.forms) (h : ¬ (Form.ofText entry).compiles) :
      Happens e o t .formTooLarge
  | formsCompiled (hcompiles : e.CompilesForms o) :
      Happens e o t (.formsCompiled o.forms o.activeForms.length)
  | formsFlushed (hcompiles : e.CompilesForms o) (h : e.forms.limit ≤ e.forms.size) :
      Happens e o t (.cacheFlushed e.forms.limit)
  | pairReplaced {entry : Text} (hcompiles : e.CompilesPairs o)
      (hentry : entry ∈ Brackets.entries o.autoBracketSets) (h : entry.length ≠ 2) :
      Happens e o t (.pairReplaced entry)
  | pairsCompiled (hcompiles : e.CompilesPairs o) :
      Happens e o t (.pairsCompiled o.autoBracketSets o.activePairs.length)
  | pairsFlushed (hcompiles : e.CompilesPairs o) (h : e.pairs.limit ≤ e.pairs.size) :
      Happens e o t (.cacheFlushed e.pairs.limit)
  /-- A word with an anchor that a form finds is annotated as a whole all the same. -/
  | glossLeftOver {front rest : List Form} {f : Form} {found : Form.Occurrence}
      (haligned : o.patternMatching) (hforms : o.activeForms = front ++ f :: rest)
      (hfound : found ∈ unguarded (f.scan (o.afterForms front t))) (hword : isAnchored found.word)
      (h : align found.word found.gloss = [.ruby found.word found.gloss]) :
      Happens e o t (.glossLeftOver found.word found.gloss)
  /-- A base that a pair finds has fewer characters than there are readings for it. -/
  | readingsExceedBase {front rest : List Brackets} {b : Brackets} {found : Detection}
      {gloss : Text} (haligned : o.patternMatching) (hpairs : o.activePairs = front ++ b :: rest)
      (hfound : found ∈ unguarded (b.scan (o.afterPairs front t)))
      (hgloss : gloss = stripSuffix found.gloss found.suffix) (hseparator : gloss.any isSeparator)
      (h : found.base.length < (gloss.pieces isSeparator).length) :
      Happens e o t (.readingsExceedBase found.base gloss)

/-! ## Where notices come from -/

/-- A pass reports what it does with the text that the passes before it left. -/
lemma mem_stepNotices_iff {α : Type} {apply : α → Text → Text} {notices : α → Text → List Notice}
    {steps : List α} : n ∈ stepNotices apply notices steps t ↔ ∃ front a rest,
      steps = front ++ a :: rest ∧ n ∈ notices a (front.foldl (fun t a => apply a t) t) := by
  induction steps generalizing t with
  | nil => simp [stepNotices]
  | cons a steps ih =>
      rw [stepNotices, List.mem_append, ih]
      constructor
      · rintro (h | ⟨front, b, rest, rfl, h⟩)
        · exact ⟨[], a, steps, rfl, h⟩
        · exact ⟨a :: front, b, rest, rfl, h⟩
      · rintro ⟨front, b, rest, hsteps, h⟩
        rcases List.cons_eq_append_iff.1 hsteps with ⟨rfl, hcons⟩ | ⟨front, rfl, rfl⟩
        · obtain ⟨rfl, rfl⟩ := List.cons.inj hcons
          exact Or.inl h
        · exact Or.inr ⟨front, b, rest, rfl, h⟩

/-- A cache reports a compilation if the key is new, and a flush if there is no room for it. -/
lemma mem_fetchNotices_iff {α : Type} {c : Cache α} {key : Text}
    {compilation : Text → List Notice} : n ∈ fetchNotices c key compilation ↔
      c.find? key = none ∧
        (n ∈ compilation key ∨ c.limit ≤ c.size ∧ n = .cacheFlushed c.limit) := by
  rw [fetchNotices, Cache.willFlush]
  cases c.find? key with
  | some value => simp
  | none => simp

end Engine

namespace Notice

variable {n : Notice} {list : Text}

/-- Compiling forms reports the entries that are replaced, those that are left out, and the count. -/
lemma mem_ofForms_iff : n ∈ ofForms list ↔
    (∃ entry ∈ Form.entries list, ¬ Form.IsWritten entry ∧ n = .formReplaced entry) ∨
    (∃ entry ∈ Form.entries list, ¬ (Form.ofText entry).compiles ∧ n = .formTooLarge) ∨
    n = .formsCompiled list (Form.compileList list).length := by
  have hform : ∀ entry, n ∈ ofForm entry ↔ ¬ Form.IsWritten entry ∧ n = .formReplaced entry := by
    intro entry
    rw [ofForm, ← Form.isSome_ofText?_iff]
    split_ifs <;> simp_all
  have hmatcher : ∀ f : Form, n ∈ ofMatcher f ↔ ¬ f.compiles ∧ n = .formTooLarge := by
    intro f
    rw [ofMatcher]
    split_ifs <;> simp_all
  simp only [ofForms, List.mem_append, List.mem_flatMap, List.mem_singleton, hform, hmatcher,
    and_or_left, exists_or, or_assoc]

lemma mem_ofPairs_iff : n ∈ ofPairs list ↔
    (∃ entry ∈ Brackets.entries list, entry.length ≠ 2 ∧ n = .pairReplaced entry) ∨
    n = .pairsCompiled list (Brackets.compileList list).length := by
  have hpair : ∀ entry : Text,
      n ∈ (if (Brackets.ofText? entry).isSome then [] else [pairReplaced entry]) ↔
        entry.length ≠ 2 ∧ n = .pairReplaced entry := by
    intro entry
    rw [ne_eq, ← Brackets.isSome_ofText?_iff]
    split_ifs <;> simp_all
  simp only [ofPairs, List.mem_append, List.mem_flatMap, List.mem_singleton, hpair]

lemma mem_ofFallback_iff {brackets : Text} :
    n ∈ ofFallback brackets ↔ brackets.length ≠ 2 ∧ n = .fallbackReplaced brackets := by
  rw [ofFallback, ne_eq, ← Brackets.isSome_ofText?_iff]
  split_ifs <;> simp_all

/-- A pass of a form reports the words that have an anchor and are annotated as a whole. -/
lemma mem_ofFormPass_iff {aligned : Bool} {f : Form} {t : Text} : n ∈ ofFormPass aligned f t ↔
    aligned ∧ ∃ found ∈ unguarded (f.scan t), isAnchored found.word ∧
      align found.word found.gloss = [.ruby found.word found.gloss] ∧
      n = .glossLeftOver found.word found.gloss := by
  have hfound : ∀ word gloss, n ∈ ofAlignment word gloss ↔ isAnchored word ∧
      align word gloss = [.ruby word gloss] ∧ n = .glossLeftOver word gloss := by
    intro word gloss
    rw [ofAlignment]
    by_cases hword : isAnchored word
    · rw [align_eq_whole_iff_alignRuns? hword]
      cases alignRuns? (some gloss) (runs word) <;> simp [hword]
    · simp [hword]
  rw [ofFormPass]
  cases aligned <;> simp [hfound]

/-- A pass of a pair reports the bases with fewer characters than readings. -/
lemma mem_ofPairPass_iff {aligned : Bool} {b : Brackets} {t : Text} : n ∈ ofPairPass aligned b t ↔
    aligned ∧ ∃ found ∈ unguarded (b.scan t),
      (stripSuffix found.gloss found.suffix).any isSeparator ∧
      found.base.length < ((stripSuffix found.gloss found.suffix).pieces isSeparator).length ∧
      n = .readingsExceedBase found.base (stripSuffix found.gloss found.suffix) := by
  have hfound : ∀ base gloss, n ∈ ofDistribution base gloss ↔ gloss.any isSeparator ∧
      base.length < (gloss.pieces isSeparator).length ∧ n = .readingsExceedBase base gloss := by
    intro base gloss
    rw [ofDistribution, hasReadings]
    cases gloss.any isSeparator <;> simp
  rw [ofPairPass]
  cases aligned with
  | false => simp
  | true => simp only [if_true, List.mem_flatMap, hfound, true_and]

end Notice

namespace Engine

variable {e : Engine} {o : Options} {t : Text} {n : Notice}

/-- The steps of a call. -/
lemma mem_notices_iff_or : n ∈ e.notices o t ↔
    n ∈ Notice.ofFallback o.fallbackBrackets ∨
    (o.enabled ∧ n ∈ fetchNotices e.forms o.forms Notice.ofForms) ∨
    (∃ front f rest, o.activeForms = front ++ f :: rest ∧
      n ∈ Notice.ofFormPass o.patternMatching f (o.afterForms front t)) ∨
    (o.detects ∧ n ∈ fetchNotices e.pairs o.autoBracketSets Notice.ofPairs) ∨
    ∃ front b rest, o.activePairs = front ++ b :: rest ∧
      n ∈ Notice.ofPairPass o.patternMatching b (o.afterPairs front t) := by
  have hite : ∀ (p : Bool) (l : List Notice), n ∈ (if p then l else []) ↔ p ∧ n ∈ l := by
    intro p l
    cases p <;> simp
  simp only [notices, List.mem_append, hite, mem_stepNotices_iff, or_assoc]
  rfl

/-- What compiling the forms reports is among the notices. -/
lemma mem_notices_of_forms (hcompiles : e.CompilesForms o)
    (h : n ∈ Notice.ofForms o.forms ∨
      e.forms.limit ≤ e.forms.size ∧ n = .cacheFlushed e.forms.limit) : n ∈ e.notices o t :=
  mem_notices_iff_or.2 (Or.inr (Or.inl ⟨hcompiles.1, mem_fetchNotices_iff.2 ⟨hcompiles.2, h⟩⟩))

/-- What compiling the pairs reports is among the notices. -/
lemma mem_notices_of_pairs (hcompiles : e.CompilesPairs o)
    (h : n ∈ Notice.ofPairs o.autoBracketSets ∨
      e.pairs.limit ≤ e.pairs.size ∧ n = .cacheFlushed e.pairs.limit) : n ∈ e.notices o t := by
  have hfetch := mem_fetchNotices_iff.2 ⟨hcompiles.2, h⟩
  exact mem_notices_iff_or.2 (Or.inr (Or.inr (Or.inr (Or.inl ⟨hcompiles.1, hfetch⟩))))

lemma happens_of_mem_notices (hn : n ∈ e.notices o t) : Happens e o t n := by
  rcases mem_notices_iff_or.1 hn with
    hn | ⟨henabled, hn⟩ | ⟨front, f, rest, hforms, hn⟩ | ⟨hdetects, hn⟩ | ⟨front, b, rest, hpairs, hn⟩
  · obtain ⟨h, rfl⟩ := Notice.mem_ofFallback_iff.1 hn
    exact .fallbackReplaced h
  · obtain ⟨hnew, hn | ⟨h, rfl⟩⟩ := mem_fetchNotices_iff.1 hn
    · have hactive : o.activeForms = Form.compileList o.forms := if_pos henabled
      rcases Notice.mem_ofForms_iff.1 hn with
        ⟨entry, hentry, h, rfl⟩ | ⟨entry, hentry, h, rfl⟩ | rfl
      · exact .formReplaced ⟨henabled, hnew⟩ hentry h
      · exact .formTooLarge ⟨henabled, hnew⟩ hentry h
      · exact hactive ▸ .formsCompiled ⟨henabled, hnew⟩
    · exact .formsFlushed ⟨henabled, hnew⟩ h
  · obtain ⟨haligned, found, hfound, hword, h, rfl⟩ := Notice.mem_ofFormPass_iff.1 hn
    exact .glossLeftOver haligned hforms hfound hword h
  · obtain ⟨hnew, hn | ⟨h, rfl⟩⟩ := mem_fetchNotices_iff.1 hn
    · have hactive : o.activePairs = Brackets.compileList o.autoBracketSets := if_pos hdetects
      rcases Notice.mem_ofPairs_iff.1 hn with ⟨entry, hentry, h, rfl⟩ | rfl
      · exact .pairReplaced ⟨hdetects, hnew⟩ hentry h
      · exact hactive ▸ .pairsCompiled ⟨hdetects, hnew⟩
    · exact .pairsFlushed ⟨hdetects, hnew⟩ h
  · obtain ⟨haligned, found, hfound, hseparator, h, rfl⟩ := Notice.mem_ofPairPass_iff.1 hn
    exact .readingsExceedBase haligned hpairs hfound rfl hseparator h

/-- **What is reported is what happens.** -/
theorem mem_notices_iff : n ∈ e.notices o t ↔ Happens e o t n := by
  refine ⟨happens_of_mem_notices, fun h => ?_⟩
  cases h with
  | fallbackReplaced h => exact mem_notices_iff_or.2 (Or.inl (Notice.mem_ofFallback_iff.2 ⟨h, rfl⟩))
  | formReplaced hc hentry h =>
      exact mem_notices_of_forms hc (Or.inl (Notice.mem_ofForms_iff.2 (Or.inl ⟨_, hentry, h, rfl⟩)))
  | formTooLarge hc hentry h =>
      refine mem_notices_of_forms hc (Or.inl (Notice.mem_ofForms_iff.2 ?_))
      exact Or.inr (Or.inl ⟨_, hentry, h, rfl⟩)
  | formsCompiled hc =>
      refine mem_notices_of_forms hc (Or.inl (Notice.mem_ofForms_iff.2 (Or.inr (Or.inr ?_))))
      rw [Options.activeForms, if_pos hc.1]
  | formsFlushed hc h => exact mem_notices_of_forms hc (Or.inr ⟨h, rfl⟩)
  | pairReplaced hc hentry h =>
      exact mem_notices_of_pairs hc (Or.inl (Notice.mem_ofPairs_iff.2 (Or.inl ⟨_, hentry, h, rfl⟩)))
  | pairsCompiled hc =>
      refine mem_notices_of_pairs hc (Or.inl (Notice.mem_ofPairs_iff.2 (Or.inr ?_)))
      rw [Options.activePairs, if_pos hc.1]
  | pairsFlushed hc h => exact mem_notices_of_pairs hc (Or.inr ⟨h, rfl⟩)
  | glossLeftOver haligned hforms hfound hword h =>
      have hpass := Notice.mem_ofFormPass_iff.2 ⟨haligned, _, hfound, hword, h, rfl⟩
      exact mem_notices_iff_or.2 (Or.inr (Or.inr (Or.inl ⟨_, _, _, hforms, hpass⟩)))
  | readingsExceedBase haligned hpairs hfound hgloss hseparator h =>
      subst hgloss
      have hpass := Notice.mem_ofPairPass_iff.2 ⟨haligned, _, hfound, hseparator, h, rfl⟩
      exact mem_notices_iff_or.2 (Or.inr (Or.inr (Or.inr (Or.inr ⟨_, _, _, hpairs, hpass⟩))))

end Engine

/-! ## Compilations and the engine -/

/-- Whether a notice says that a list was compiled. -/
def Notice.IsCompilation : Notice → Prop
  | formsCompiled _ _ | pairsCompiled _ _ => True
  | _ => False

/-- A value that was added is found. -/
lemma Cache.find?_insert {α : Type} (c : Cache α) (key : Text) (value : α) :
    (c.insert key value).find? key = some value := by
  rw [Cache.insert]
  split_ifs <;> simp [Cache.find?]

/-- A cache stays as it is exactly if it holds the key, and holds it afterwards in any case. -/
lemma Cache.fetch_snd_eq_iff {α : Type} (c : Cache α) (key : Text) (build : Text → α) :
    ((c.fetch key build).2 = c ↔ c.find? key ≠ none) ∧ (c.fetch key build).2.find? key ≠ none := by
  rw [Cache.fetch]
  cases hfind : c.find? key with
  | some value => simp [hfind]
  | none =>
      have hinsert := c.find?_insert key (build key)
      refine ⟨iff_of_false (fun heq => ?_) (by simp), by simp [hinsert]⟩
      have heq : c.insert key (build key) = c := heq
      rw [heq, hfind] at hinsert
      exact absurd hinsert (by simp)

namespace Engine

variable {e : Engine} {o : Options} {t : Text} {n : Notice}

/-- A call changes an engine by the lists that it fetches. -/
lemma render_snd (e : Engine) (o : Options) (t : Text) : (e.render o t).2 =
    ⟨if o.enabled then (e.forms.fetch o.forms Form.compileList).2 else e.forms,
      if o.detects then (e.pairs.fetch o.autoBracketSets Brackets.compileList).2 else e.pairs⟩ := by
  rw [render, fetchForms]
  cases o.enabled <;> cases hdetects : o.detects <;> simp [fetchPairs, hdetects]

lemma exists_isCompilation_iff : (∃ n ∈ e.notices o t, n.IsCompilation) ↔
    e.CompilesForms o ∨ e.CompilesPairs o := by
  constructor
  · rintro ⟨n, hn, hcompilation⟩
    cases mem_notices_iff.1 hn with
    | formsCompiled hc => exact Or.inl hc
    | pairsCompiled hc => exact Or.inr hc
    | _ => exact absurd hcompilation id
  · rintro (hc | hc)
    · exact ⟨_, mem_notices_iff.2 (.formsCompiled hc), trivial⟩
    · exact ⟨_, mem_notices_iff.2 (.pairsCompiled hc), trivial⟩

/-- **An engine stays as it is exactly if no compilation is reported.** -/
theorem render_snd_eq_iff :
    (e.render o t).2 = e ↔ ∀ n ∈ e.notices o t, ¬ n.IsCompilation := by
  have hnone : (∀ n ∈ e.notices o t, ¬ n.IsCompilation) ↔
      ¬ e.CompilesForms o ∧ ¬ e.CompilesPairs o := by
    rw [← not_or, ← exists_isCompilation_iff (t := t)]
    push Not
    rfl
  -- a part of the engine that is not fetched stays, and one that is stays if it holds the key
  have hite : ∀ {α : Type} (p : Bool) (c : Cache α) (key : Text) (build : Text → α),
      (if p then (c.fetch key build).2 else c) = c ↔ ¬ (p ∧ c.find? key = none) := by
    intro α p c key build
    cases p with
    | false => simp
    | true => simp [(c.fetch_snd_eq_iff key build).1]
  rw [hnone, render_snd]
  cases e with
  | mk forms pairs => rw [Engine.mk.injEq, hite, hite, CompilesForms, CompilesPairs]

/-- **A second call with the same options compiles nothing.** -/
theorem not_isCompilation_of_mem_notices_render (t' : Text) :
    ∀ n ∈ (e.render o t).2.notices o t', ¬ n.IsCompilation := by
  have hforms := (e.forms.fetch_snd_eq_iff o.forms Form.compileList).2
  have hpairs := (e.pairs.fetch_snd_eq_iff o.autoBracketSets Brackets.compileList).2
  have hnone : ¬ ((e.render o t).2.CompilesForms o ∨ (e.render o t).2.CompilesPairs o) := by
    rw [render_snd]
    rintro (⟨henabled, h⟩ | ⟨hdetects, h⟩)
    · rw [if_pos henabled] at h
      exact hforms h
    · rw [if_pos hdetects] at h
      exact hpairs h
  intro n hn hcompilation
  exact hnone (exists_isCompilation_iff.1 ⟨n, hn, hcompilation⟩)

end Engine

/-! ## Replacements and validation -/

/-- Whether a notice says that a part of the options was replaced. -/
def Notice.IsReplacement : Notice → Prop
  | fallbackReplaced _ | formReplaced _ | pairReplaced _ => True
  | _ => False

/-- The notice that a malformed part was replaced. -/
def Invalid.notice : Invalid → Notice
  | fallback brackets => .fallbackReplaced brackets
  | pair entry => .pairReplaced entry
  | form entry => .formReplaced entry

namespace Engine

variable {e : Engine} {o : Options} {t : Text}

lemma compilesForms_fresh (h : o.enabled) : fresh.CompilesForms o := ⟨h, rfl⟩

lemma compilesPairs_fresh (h : o.detects) : fresh.CompilesPairs o := ⟨h, rfl⟩

/-- **The part that validation finds is reported** by a call that compiles both lists. -/
theorem notice_mem_notices_of_invalid? (hforms : e.CompilesForms o) (hpairs : e.CompilesPairs o)
    {part : Invalid} (h : o.invalid? = some part) : part.notice ∈ e.notices o t := by
  rw [mem_notices_iff]
  cases Options.invalid?_eq_some_iff.1 h with
  | fallback hlength => exact .fallbackReplaced hlength
  | pair _ hfirst =>
      obtain ⟨front, rest, hentries, _, hmalformed⟩ := hfirst
      exact .pairReplaced hpairs (by simp [hentries]) hmalformed
  | form _ _ hfirst =>
      obtain ⟨front, rest, hentries, _, hmalformed⟩ := hfirst
      exact .formReplaced hforms (by simp [hentries]) hmalformed

/-- **A call that compiles both lists reports a replacement exactly if validation finds something.** -/
theorem invalid?_eq_none_iff_notices (hforms : e.CompilesForms o) (hpairs : e.CompilesPairs o) :
    o.invalid? = none ↔ ∀ n ∈ e.notices o t, ¬ n.IsReplacement := by
  constructor
  · intro h n hn hreplacement
    obtain ⟨hfallback, hpair, hform⟩ := Options.invalid?_eq_none_iff.1 h
    cases mem_notices_iff.1 hn with
    | fallbackReplaced h => exact h hfallback
    | formReplaced _ hentry h => exact h (hform _ hentry)
    | pairReplaced _ hentry h => exact h (hpair _ hentry)
    | _ => exact hreplacement
  · intro h
    cases hinvalid : o.invalid? with
    | none => rfl
    | some part =>
        have hmem := notice_mem_notices_of_invalid? (t := t) hforms hpairs hinvalid
        have hreplacement : part.notice.IsReplacement := by cases part <;> trivial
        exact absurd hreplacement (h _ hmem)

end Engine

end Furigana
