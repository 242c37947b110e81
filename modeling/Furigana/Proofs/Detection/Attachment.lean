import Mathlib
import Furigana.Proofs.Tree

/-!
# Glosses that follow a text

A gloss in brackets is detected by what stands in front of it, and with that text may end what an
earlier pass wrote.  `Attaches` says that an ideograph of one text is followed, across the seam to
another text, by kana and a gloss.

* `Glosses`, `Attaches` — the two notions, which more text behind can only make true;
* `attaches_of_detect`, `exists_detect_of_attaches` — a word is detected exactly where a gloss
  attaches;
* `detect_cons_eq_some` — one more ideograph in front of a word belongs to its base;
* `tree_eq_text_of_not_attaches` — what that means for a pass.
-/

namespace Furigana.Brackets

variable {b : Brackets} {c : Char} {t u r : Text} {d : Detection} {matched : Text}

/-- Whether kana, possibly none, lead to a gloss between the two glyphs. -/
def Glosses (b : Brackets) (t : Text) : Prop :=
  ∃ suffix gloss rest, t = suffix ++ b.opening :: (gloss ++ b.closing :: rest) ∧
    (∀ c ∈ suffix, isAnnotation c) ∧ gloss ≠ [] ∧ ∀ c ∈ gloss, b.allowsInGloss c

/-- Whether an ideograph of the text `u` has a gloss, when `r` follows the text. -/
def Attaches (b : Brackets) (u r : Text) : Prop :=
  ∃ a c z, u = a ++ c :: z ∧ isLogographic c ∧ b.Glosses (z ++ r)

/-! ## More text behind, more text in front -/

lemma Glosses.mono (h : b.Glosses t) (htu : t <+: u) : b.Glosses u := by
  obtain ⟨suffix, gloss, rest, rfl, hsuffix, hne, hgloss⟩ := h
  obtain ⟨v, rfl⟩ := htu
  exact ⟨suffix, gloss, rest ++ v, by simp, hsuffix, hne, hgloss⟩

lemma Attaches.mono (h : b.Attaches u r) {r' : Text} (hr : r <+: r') : b.Attaches u r' := by
  obtain ⟨a, c, z, rfl, hc, hz⟩ := h
  exact ⟨a, c, z, rfl, hc, hz.mono ((List.prefix_append_right_inj z).2 hr)⟩

/-- What attaches inside a part of a text attaches in the text. -/
lemma Attaches.of_part {x : Text} (h : b.Attaches x []) (hxu : x <:+: u) : b.Attaches u r := by
  obtain ⟨a, c, z, rfl, hc, hz⟩ := h
  obtain ⟨v, w, rfl⟩ := hxu
  refine ⟨v ++ a, c, z ++ w, by simp, hc, hz.mono ?_⟩
  exact ⟨w ++ r, by simp⟩

lemma attaches_cons :
    b.Attaches (c :: u) r ↔ (isLogographic c ∧ b.Glosses (u ++ r)) ∨ b.Attaches u r := by
  constructor
  · rintro ⟨a, e, z, hu, he, hz⟩
    cases a with
    | nil =>
        obtain ⟨rfl, rfl⟩ := List.cons.inj hu
        exact Or.inl ⟨he, hz⟩
    | cons f a =>
        obtain ⟨rfl, rfl⟩ := List.cons.inj hu
        exact Or.inr ⟨a, e, z, rfl, he, hz⟩
  · rintro (⟨hc, hu⟩ | ⟨a, e, z, rfl, he, hz⟩)
    · exact ⟨[], c, u, rfl, hc, hu⟩
    · exact ⟨c :: a, e, z, rfl, he, hz⟩

lemma not_attaches_of_notMem (h : b.opening ∉ u) : ¬ b.Attaches u [] := by
  rintro ⟨a, c, z, rfl, _, suffix, gloss, rest, hz, _⟩
  rw [List.append_nil] at hz
  exact h (by simp [hz])

/-! ## What is detected -/

/-- The gloss of a written word attaches to its base. -/
lemma attaches_write (hd : b.IsWord d) (t : Text) : b.Attaches (b.write d ++ t) [] := by
  obtain ⟨base, c, hbase⟩ := (List.eq_nil_or_concat' d.base).resolve_left hd.base_ne
  refine ⟨d.boundary ++ base, c, d.suffix ++ b.opening :: (d.gloss ++ b.closing :: t), ?_,
    hd.base c (by simp [hbase]), d.suffix, d.gloss, t, by simp, hd.suffix, hd.gloss_ne, hd.gloss⟩
  rw [write_append, hbase]
  simp

/-- Where a word is detected its gloss attaches to its base. -/
lemma attaches_of_detect (h : b.detect t = some (d, matched)) : b.Attaches t [] := by
  obtain ⟨_, hd, _, rest, rfl⟩ := detect_eq_some h
  exact attaches_write hd rest

lemma findGloss_ne_none {gloss : Text} (hne : gloss ≠ []) (h : ∀ c ∈ gloss, b.allowsInGloss c)
    (rest : Text) :
    b.findGloss (b.opening :: (gloss ++ b.closing :: rest)) ≠ none := by
  intro hnone
  rw [findGloss, if_pos rfl, Option.map_eq_none_iff] at hnone
  have hclosing : [b.closing].isPrefixOf? (b.closing :: rest) = some rest :=
    List.isPrefixOf?_eq_some_iff_append_eq.2 rfl
  exact absurd (hclosing.symm.trans (runThen_eq_none hnone rfl hne h)) (by simp)

/-- An ideograph with a gloss is a word. -/
lemma detect_cons_ne_none (hc : isLogographic c) (h : b.Glosses t) : b.detect (c :: t) ≠ none := by
  obtain ⟨suffix, gloss, rest, rfl, hsuffix, hne, hgloss⟩ := h
  intro hnone
  rw [detect, if_pos hc, findWord, Option.map_eq_none_iff] at hnone
  have hrest := runThen_eq_none (x := [c]) hnone rfl (by simp) (by simpa using hc)
  rw [runOrNoneThen, Option.or_eq_none_iff, Option.map_eq_none_iff] at hrest
  refine findGloss_ne_none hne hgloss rest ?_
  cases suffix with
  | nil => exact hrest.2
  | cons e suffix => exact runThen_eq_none hrest.1 rfl (by simp) hsuffix

/-- Where a gloss attaches a word is detected. -/
lemma exists_detect_of_attaches (h : b.Attaches t []) : ∃ x, x <:+ t ∧ b.detect x ≠ none := by
  obtain ⟨a, c, z, rfl, hc, hz⟩ := h
  rw [List.append_nil] at hz
  exact ⟨c :: z, List.suffix_append a _, detect_cons_ne_none hc hz⟩

/-- **One more ideograph.**  A word that starts with an ideograph to which the gloss does not attach
itself is the word behind that ideograph, with a longer base. -/
theorem detect_cons_eq_some (hc : isLogographic c) (ht : ¬ b.Glosses t)
    (h : b.detect (c :: t) = some (d, matched)) :
    ∃ d' matched', b.detect t = some (d', matched') ∧ d'.boundary = [] ∧
      d = { d' with base := c :: d'.base } ∧ matched = c :: matched' := by
  rw [detect, if_pos hc, findWord] at h
  obtain ⟨⟨base, suffix, gloss⟩, hrun, heq⟩ := Option.map_eq_some_iff.1 h
  obtain ⟨rfl, rfl⟩ := Prod.mk.inj heq
  rw [runThen, if_pos hc] at hrun
  cases hword : runThen isLogographic (runOrNoneThen isAnnotation b.findGloss) t with
  | none =>
      -- the base is the one ideograph, so that kana and gloss follow it
      exfalso
      rw [hword] at hrun
      obtain ⟨⟨suffix', gloss'⟩, hnext, _⟩ := Option.map_eq_some_iff.1 hrun
      obtain ⟨hsuffix, rest, rfl, hgloss⟩ := runOrNoneThen_eq_some hnext
      obtain ⟨hne, hg, rest, rfl⟩ := findGloss_eq_some hgloss
      exact ht ⟨suffix', gloss', rest, rfl, hsuffix, hne, hg⟩
  | some found =>
      obtain ⟨base', suffix', gloss'⟩ := found
      rw [hword] at hrun
      cases hrun
      refine ⟨⟨[], base', suffix, gloss⟩, b.write ⟨[], base', suffix, gloss⟩,
        detect_of_findWord ?_, rfl, rfl, by simp [write]⟩
      rw [findWord, hword]
      rfl

/-! ## What a pass makes of it -/

section Trees

variable {aligned : Bool} {fallback : Brackets}

/-- A text stays if nothing in it has a gloss. -/
lemma tree_eq_text_of_not_attaches (h : ¬ b.Attaches t []) : b.tree aligned fallback t = .text t := by
  refine passTree_eq_text ?_ none
  intro x _ hxt
  cases hx : b.detect x with
  | none => rfl
  | some r => exact absurd ((attaches_of_detect hx).of_part hxt.isInfix) h

/-- The character in front of a word stays, so a pass may as well start behind it. -/
lemma passTree_cons_of_not_logographic {before : Option Char} (hbefore : before ≠ some escapeChar)
    (hfallback : fallback.opening ≠ '<' ∧ fallback.closing ≠ '<') (hc : ¬ isLogographic c)
    (ht : '<' ∉ c :: t) :
    passTree b.detect (Detection.tree aligned fallback) before (c :: t)
      = .text [c] ++ passTree b.detect (Detection.tree aligned fallback) (some c) t := by
  have hplain : ∀ e ∈ c :: t, e ≠ '<' := fun e he heq => ht (heq ▸ he)
  refine Markup.toText_injective (over_passTree hfallback.1 hfallback.2 before hplain)
    (Markup.over_append ?_ (over_passTree hfallback.1 hfallback.2 (some c) ?_)) ?_
  · exact fun e he => hplain e (by simp [List.mem_singleton.1 he])
  · exact fun e he => hplain e (List.mem_cons_of_mem _ he)
  · rw [Markup.toText_append, toText_passTree, toText_passTree,
      pass_cons_of_not_logographic hbefore hc]
    rfl

lemma tree_cons_of_not_logographic (hfallback : fallback.opening ≠ '<' ∧ fallback.closing ≠ '<')
    (hc : ¬ isLogographic c) (hesc : c ≠ escapeChar) (ht : '<' ∉ c :: t) :
    b.tree aligned fallback (c :: t) = .text [c] ++ b.tree aligned fallback t := by
  rw [tree, passTree_cons_of_not_logographic (by simp) hfallback hc ht,
    passTree_eq_none (by simpa using hesc)]

end Trees

end Furigana.Brackets
