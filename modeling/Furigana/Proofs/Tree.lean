import Mathlib
import Furigana.Proofs.Markup.Expansion
import Furigana.Proofs.Rendering

/-!
# Conversions as trees

A conversion is defined on texts, tags and all.  Here every step is given the tree that it writes, so
that questions about elements (which there are, what they hold, how they stand inside each other)
become questions about trees.

* `passTree` — the tree that one pass writes, with an equation for each case of a scan;
* `Form.tree`, `Brackets.tree` — the passes of a form and of a pair;
* `convertTree` — the tree of a conversion, and `toText_convertTree` the equation with `convert`;
* `explicitTree`, `detectedTree` — the standard conversion, cut between forms and pairs;
* `Reads` — that a text is the writing of a tree; it is so of one tree at most (`Reads.unique`).
-/

namespace Furigana

/-- The text is the writing of the tree, and no `<` stands in the tree as text. -/
def Reads (t : Text) (m : Markup) : Prop := m.Over (· ≠ '<') ∧ m.toText = t

lemma Reads.unique {t : Text} {m n : Markup} (hm : Reads t m) (hn : Reads t n) : m = n :=
  Markup.toText_injective hm.1 hn.1 (hm.2.trans hn.2.symm)

/-! ## Passes -/

/-- The tree of scanned pieces, with each occurrence that is not escaped replaced. -/
def Markup.ofPieces {α : Type} (replace : α → Markup) : List (Piece α) → Markup
  | [] => text []
  | .plain c :: pieces => text [c] ++ ofPieces replace pieces
  | .found escaped matched a :: pieces =>
      (if escaped then text matched else replace a) ++ ofPieces replace pieces

section Passes

variable {α : Type} {find : Text → Option (α × Text)} {replace : α → Markup} {p : Char → Prop}
  {before : Option Char} {c : Char} {t : Text}

/-- The tree that one pass leaves. -/
def passTree (find : Text → Option (α × Text)) (replace : α → Markup) (before : Option Char)
    (t : Text) : Markup :=
  .ofPieces replace (scan find before t)

lemma toText_ofPieces (pieces : List (Piece α)) :
    (Markup.ofPieces replace pieces).toText = rewrite (fun a => (replace a).toText) pieces := by
  induction pieces with
  | nil => rfl
  | cons piece pieces ih =>
      cases piece with
      | plain c => simp [Markup.ofPieces, ih, rewrite, Markup.toText]
      | found escaped matched a => cases escaped <;> simp [Markup.ofPieces, ih, rewrite, Markup.toText]

/-- The tree of a pass is written as what the pass leaves. -/
lemma toText_passTree (before : Option Char) (t : Text) :
    (passTree find replace before t).toText = pass find (fun a => (replace a).toText) before t :=
  toText_ofPieces _

@[simp] lemma passTree_nil (before : Option Char) : passTree find replace before [] = .text [] := by
  rw [passTree, scan_nil]
  rfl

lemma passTree_cons (h : find (c :: t) = none) (before : Option Char) :
    passTree find replace before (c :: t) = .text [c] ++ passTree find replace (some c) t := by
  rw [passTree, scan_cons h]
  rfl

lemma passTree_append_found {matched : Text} {a : α}
    (h : find (matched ++ t) = some (a, matched)) (hne : matched ≠ []) (before : Option Char) :
    passTree find replace before (matched ++ t)
      = (if isEscaped before matched then .text matched else replace a)
        ++ passTree find replace (behind before matched) t := by
  rw [passTree, scan_append_found h hne]
  rfl

/-- A stretch in which nothing is found stays. -/
lemma passTree_append_plain {u : Text}
    (hu : ∀ x, x ≠ [] → x <:+ u → find (x ++ t) = none) (before : Option Char) :
    passTree find replace before (u ++ t)
      = .text u ++ passTree find replace (behind before u) t := by
  induction u generalizing before with
  | nil => simp
  | cons c u ih =>
      have hstep : find (c :: (u ++ t)) = none := hu (c :: u) (by simp) List.suffix_rfl
      rw [List.cons_append, passTree_cons hstep, behind_cons,
        ih fun x hx hxu => hu x hx (hxu.trans (List.suffix_cons c u)), ← Markup.append_assoc]
      simp

/-- Text in which nothing is found stays. -/
lemma passTree_eq_text (h : ∀ x, x ≠ [] → x <:+ t → find x = none) (before : Option Char) :
    passTree find replace before t = .text t := by
  have happend : passTree find replace before (t ++ [])
      = .text t ++ passTree find replace (behind before t) [] :=
    passTree_append_plain (fun x hx hxt => by simpa using h x hx hxt) before
  simpa using happend

/-- A character in front that is no escape might as well not be there. -/
lemma passTree_eq_none (h : before ≠ some escapeChar) (t : Text) :
    passTree find replace before t = passTree find replace none t := by
  have hescaped : ∀ matched, isEscaped before matched = isEscaped none matched := by
    intro matched
    simp [isEscaped, h]
  cases t with
  | nil => simp
  | cons c t => rw [passTree, passTree, scan, scan]; simp only [hescaped]

/-- A pass over characters of a class whose replacements keep to it keeps to it. -/
lemma over_passTree (hfind : IsSearch find)
    (hreplace : ∀ t a matched, find t = some (a, matched) → (∀ c ∈ matched, p c) →
      (replace a).Over p) (before : Option Char) (t : Text) (ht : ∀ c ∈ t, p c) :
    (passTree find replace before t).Over p := by
  refine pass_induction hfind
    (motive := fun before t => (∀ c ∈ t, p c) → (passTree find replace before t).Over p)
    ?_ ?_ ?_ before t ht
  · simp [Markup.Over]
  · intro before c t hnone ih ht
    rw [passTree_cons hnone]
    refine Markup.over_append ?_ (ih fun d hd => ht d (List.mem_cons_of_mem _ hd))
    simpa [Markup.Over] using ht c (by simp)
  · intro before matched t a hsome hne ih ht
    have hmatched : ∀ c ∈ matched, p c := fun c hc => ht c (List.mem_append_left _ hc)
    rw [passTree_append_found hsome hne]
    refine Markup.over_append ?_ (ih fun c hc => ht c (List.mem_append_right _ hc))
    split_ifs
    · exact hmatched
    · exact hreplace _ a matched hsome hmatched

/-- What holds of every replacement, of plain text, and of two trees in a row holds of a pass. -/
lemma passTree_cases (hfind : IsSearch find) {P : Markup → Prop} (htext : ∀ t, P (.text t))
    (happend : ∀ m n, P m → P n → P (m ++ n))
    (hreplace : ∀ t a matched, find t = some (a, matched) → P (replace a))
    (before : Option Char) (t : Text) : P (passTree find replace before t) := by
  refine pass_induction hfind (motive := fun before t => P (passTree find replace before t))
    ?_ ?_ ?_ before t
  · intro before
    rw [passTree_nil]
    exact htext []
  · intro before c t hnone ih
    rw [passTree_cons hnone]
    exact happend _ _ (htext [c]) ih
  · intro before matched t a hsome hne ih
    rw [passTree_append_found hsome hne]
    refine happend _ _ ?_ ih
    split_ifs
    · exact htext matched
    · exact hreplace _ a matched hsome

end Passes

/-- The steps of a conversion on a tree: each text is replaced by the tree that the step writes. -/
lemma Markup.toText_expand {φ : Text → Text} (hφ : TagLocal φ) {F : Text → Markup}
    (hF : ∀ t, (F t).toText = φ t) (m : Markup) : (m.expand F).toText = φ m.toText := by
  induction m with
  | text t => exact hF t
  | element lead tag content rest ihc ihr =>
      rw [toText, hφ _ (isTag_opening tag), hφ _ (isTag_closing tag), ← hF, ← ihc, ← ihr]
      simp [expand, toText]

variable {aligned : Bool} {fallback : Brackets} {p : Char → Prop}

/-- The tree of a pass of a form. -/
def Form.tree (f : Form) (aligned : Bool) (fallback : Brackets) : Text → Markup :=
  passTree f.find (fun o => .ofSegments fallback (o.segments aligned)) none

/-- What a detected word is replaced with, as a tree. -/
def Detection.tree (aligned : Bool) (fallback : Brackets) (d : Detection) : Markup :=
  .text d.boundary ++ .ofSegments fallback (d.segments aligned)

/-- The tree of a pass of a pair. -/
def Brackets.tree (b : Brackets) (aligned : Bool) (fallback : Brackets) : Text → Markup :=
  passTree b.detect (Detection.tree aligned fallback) none

lemma Form.toText_tree (f : Form) (aligned : Bool) (fallback : Brackets) (t : Text) :
    (f.tree aligned fallback t).toText = f.apply aligned fallback t := by
  rw [tree, toText_passTree, apply_eq_pass]
  simp

lemma Brackets.toText_passTree (b : Brackets) (aligned : Bool) (fallback : Brackets)
    (before : Option Char) (t : Text) :
    (passTree b.detect (Detection.tree aligned fallback) before t).toText
      = pass b.detect (replacement aligned fallback) before t := by
  rw [Furigana.toText_passTree]
  exact congrArg (pass b.detect · before t) (funext fun d => by
    simp [Detection.tree, replacement, Markup.toText])

lemma Brackets.toText_tree (b : Brackets) (aligned : Bool) (fallback : Brackets) (t : Text) :
    (b.tree aligned fallback t).toText = b.apply aligned fallback t :=
  b.toText_passTree aligned fallback none t

lemma Form.over_tree {f : Form} (hopening : p fallback.opening) (hclosing : p fallback.closing)
    {t : Text} (ht : ∀ c ∈ t, p c) : (f.tree aligned fallback t).Over p := by
  refine over_passTree (isSearch_find f) ?_ none t ht
  intro t o matched h hmatched
  obtain ⟨rfl, _, _⟩ := find_eq_some h
  exact Markup.over_ofSegments hopening hclosing
    (o.over_segments aligned (fun c hc => hmatched c (by simp [write, hc]))
      fun c hc => hmatched c (by simp [write, hc]))

/-- What a pass of a pair writes over a class that holds the fallback glyphs is over the class. -/
lemma Brackets.over_passTree {b : Brackets} (hopening : p fallback.opening)
    (hclosing : p fallback.closing) (before : Option Char) {t : Text} (ht : ∀ c ∈ t, p c) :
    (passTree b.detect (Detection.tree aligned fallback) before t).Over p := by
  refine Furigana.over_passTree (isSearch_detect b) ?_ before t ht
  intro t d matched h hmatched
  obtain ⟨rfl, _, _⟩ := detect_eq_some h
  refine Markup.over_append (fun c hc => hmatched c (by simp [write, hc])) ?_
  exact Markup.over_ofSegments hopening hclosing
    (d.over_segments aligned (fun c hc => hmatched c (by simp [write, hc]))
      (fun c hc => hmatched c (by simp [write, hc])) fun c hc => hmatched c (by simp [write, hc]))

lemma Brackets.over_tree {b : Brackets} (hopening : p fallback.opening)
    (hclosing : p fallback.closing) {t : Text} (ht : ∀ c ∈ t, p c) :
    (b.tree aligned fallback t).Over p := over_passTree hopening hclosing none ht

/-! ## What annotations hold -/

/-- A character that words and glosses are made of. -/
def IsWordy (c : Char) : Prop := isInner c ∨ isSeparator c

lemma isWordy_of_not_ascii {c : Char} (h : ¬ c ≤ '\x7f') : IsWordy c :=
  Or.inl (by simp [isInner, not_le.1 h])

lemma isWordy_of_isLogographic {c : Char} (h : isLogographic c) : IsWordy c :=
  isWordy_of_not_ascii fun hc => not_isLogographic_of_ascii hc h

lemma isWordy_of_kana {c : Char} (h : isAnnotation c) : IsWordy c :=
  isWordy_of_not_ascii fun hc => not_isAnnotation_of_ascii hc h

lemma isWordy_of_allowsInGloss {b : Brackets} {c : Char} (h : b.allowsInGloss c) : IsWordy c := by
  simp only [Brackets.allowsInGloss, Bool.or_eq_true, Bool.and_eq_true, decide_eq_true_eq] at h
  rcases h with (⟨⟨h, _⟩, _⟩ | h) | h
  · exact isWordy_of_not_ascii (not_le.2 h)
  · exact Or.inl (by simp [isInner, h])
  · exact Or.inr h

lemma isWordy_lenticular :
    IsWordy Brackets.lenticular.opening ∧ IsWordy Brackets.lenticular.closing :=
  ⟨isWordy_of_not_ascii (by decide), isWordy_of_not_ascii (by decide)⟩

/-- No character with a meaning for forms, escapes or markup stands in a text of words. -/
lemma notMem_of_isWordy {t : Text} (ht : ∀ c ∈ t, IsWordy c) {c : Char}
    (hc : isInner c = false ∧ isSeparator c = false) : c ∉ t := by
  intro hmem
  rcases ht c hmem with h | h
  · exact absurd h (by simp [hc.1])
  · exact absurd h (by simp [hc.2])

namespace Form

variable {f : Form}

lemma Occurrence.IsInner.segments_over_isWordy {o : Occurrence} (ho : o.IsInner) (aligned : Bool) :
    ∀ s ∈ o.segments aligned, s.Over IsWordy :=
  Occurrence.over_segments aligned (fun c hc => Or.inl (ho.word c hc))
    fun c hc => Or.inl (ho.gloss c hc)

/-- The annotations that the pass of a form writes hold words and glosses. -/
lemma rubies_tree (f : Form) (aligned : Bool) (t : Text) :
    ∀ c ∈ (f.tree aligned .lenticular t).rubies, c.Over IsWordy := by
  refine passTree_cases (isSearch_find f) (P := fun m => ∀ c ∈ m.rubies, c.Over IsWordy)
    (fun t => by simp [Markup.rubies]) ?_ ?_ none t
  · intro m n hm hn c hc
    rw [Markup.rubies_append, List.mem_append] at hc
    exact hc.elim (hm c) (hn c)
  · intro t o matched h
    exact (Markup.over_ofSegments isWordy_lenticular.1 isWordy_lenticular.2
      ((find_eq_some h).2.1.segments_over_isWordy aligned)).rubies

/-- The pass of a form nests nothing. -/
lemma depth_tree_le (f : Form) (aligned : Bool) (fallback : Brackets) (t : Text) :
    (f.tree aligned fallback t).depth ≤ 1 :=
  passTree_cases (isSearch_find f) (P := fun m => m.depth ≤ 1) (fun _ => by simp [Markup.depth])
    (fun m n hm hn => by simp [hm, hn]) (fun _ _ _ _ => Markup.depth_ofSegments_le _ _) none t

/-- Text without the opening glyph stays. -/
lemma tree_eq_text {t : Text} (ht : f.main.opening ∉ t) (aligned : Bool) (fallback : Brackets) :
    f.tree aligned fallback t = .text t := by
  refine passTree_eq_text ?_ none
  intro x hx hxt
  obtain ⟨c, x, rfl⟩ := List.exists_cons_of_ne_nil hx
  refine find_cons_of_ne ?_
  rintro rfl
  exact ht (hxt.mem List.mem_cons_self)

end Form

namespace Brackets

variable {b : Brackets} {d : Detection}

lemma IsWord.segments_over_isWordy (hd : b.IsWord d) (aligned : Bool) :
    ∀ s ∈ d.segments aligned, s.Over IsWordy :=
  d.over_segments aligned (fun c hc => isWordy_of_isLogographic (hd.base c hc))
    (fun c hc => isWordy_of_kana (hd.suffix c hc))
    fun c hc => isWordy_of_allowsInGloss (hd.gloss c hc)

/-- The annotations that the pass of a pair writes hold words and glosses. -/
lemma rubies_tree (b : Brackets) (aligned : Bool) (t : Text) :
    ∀ c ∈ (b.tree aligned .lenticular t).rubies, c.Over IsWordy := by
  refine passTree_cases (isSearch_detect b) (P := fun m => ∀ c ∈ m.rubies, c.Over IsWordy)
    (fun t => by simp [Markup.rubies]) ?_ ?_ none t
  · intro m n hm hn c hc
    rw [Markup.rubies_append, List.mem_append] at hc
    exact hc.elim (hm c) (hn c)
  · intro t d matched h c hc
    rw [Detection.tree, Markup.rubies_append, Markup.rubies, List.nil_append] at hc
    exact (Markup.over_ofSegments isWordy_lenticular.1 isWordy_lenticular.2
      ((detect_eq_some h).2.1.segments_over_isWordy aligned)).rubies c hc

/-- The pass of a pair nests nothing. -/
lemma depth_tree_le (b : Brackets) (aligned : Bool) (fallback : Brackets) (t : Text) :
    (b.tree aligned fallback t).depth ≤ 1 :=
  passTree_cases (isSearch_detect b) (P := fun m => m.depth ≤ 1) (fun _ => by simp [Markup.depth])
    (fun m n hm hn => by simp [hm, hn])
    (fun _ _ _ _ => by
      rw [Detection.tree, Markup.depth_append, Markup.depth, Nat.zero_max]
      exact Markup.depth_ofSegments_le _ _) none t

end Brackets

/-! ## Conversions -/

/-- The tree of a conversion. -/
def convertTree (forms : List Form) (pairs : List Brackets) (aligned : Bool) (fallback : Brackets)
    (t : Text) : Markup :=
  (pairs.foldl (fun (m : Markup) b => m.expand (b.tree aligned fallback))
    (forms.foldl (fun (m : Markup) f => m.expand (f.tree aligned fallback)) (.text t))).expand
      (Markup.text ∘ unescape fallback)

/-- Steps one after the other, on texts and on trees. -/
lemma Markup.toText_foldl_expand {α : Type} {step : α → Text → Text} {tree : α → Text → Markup}
    {steps : List α} (hstep : ∀ a ∈ steps, TagLocal (step a))
    (htree : ∀ a t, (tree a t).toText = step a t) (m : Markup) :
    (steps.foldl (fun (m : Markup) a => m.expand (tree a)) m).toText
      = steps.foldl (fun t a => step a t) m.toText := by
  induction steps generalizing m with
  | nil => rfl
  | cons a steps ih =>
      rw [List.foldl_cons, List.foldl_cons, ih fun b hb => hstep b (List.mem_cons_of_mem _ hb),
        Markup.toText_expand (hstep a (by simp)) (htree a)]

/-- **The tree of a conversion is written as the conversion.** -/
theorem toText_convertTree {forms : List Form} {pairs : List Brackets}
    (hforms : ∀ f ∈ forms, ∀ c ∈ f.marks, IsPlain c)
    (hpairs : ∀ b ∈ pairs, IsPlain b.opening ∧ IsPlain b.closing)
    (hfallback : IsPlain fallback.opening ∧ IsPlain fallback.closing) (t : Text) :
    (convertTree forms pairs aligned fallback t).toText
      = convert forms pairs aligned fallback t := by
  have hform : ∀ f ∈ forms, TagLocal (f.apply aligned fallback) := fun f hf =>
    (Form.nests_apply (hforms f hf) hfallback.1 hfallback.2).tag
  have hpair : ∀ b ∈ pairs, TagLocal (b.apply aligned fallback) := fun b hb =>
    (Brackets.nests_apply (hpairs b hb) hfallback.1 hfallback.2).tag
  have hunescape : TagLocal (unescape fallback) := (nests_unescape hfallback.1 hfallback.2).tag
  rw [convertTree, Markup.toText_expand hunescape fun _ => rfl,
    Markup.toText_foldl_expand hpair fun b t => b.toText_tree aligned fallback t,
    Markup.toText_foldl_expand hform fun f t => f.toText_tree aligned fallback t]
  rfl

/-- What a conversion makes of text over a class that holds the fallback glyphs is over the class. -/
lemma over_convertTree {forms : List Form} {pairs : List Brackets} (hopening : p fallback.opening)
    (hclosing : p fallback.closing) {t : Text} (ht : ∀ c ∈ t, p c) :
    (convertTree forms pairs aligned fallback t).Over p := by
  have hfold : ∀ {α : Type} {tree : α → Text → Markup} (steps : List α) (m : Markup),
      (∀ a t, (∀ c ∈ t, p c) → (tree a t).Over p) → m.Over p →
      (steps.foldl (fun (m : Markup) a => m.expand (tree a)) m).Over p := by
    intro α tree steps m htree hm
    induction steps generalizing m with
    | nil => exact hm
    | cons a steps ih => exact ih _ (Markup.over_expand (htree a) hm)
  refine Markup.over_expand (fun t ht c hc => ht c ((unescape_sublist fallback t).subset hc)) ?_
  refine hfold pairs _ (fun b t => Brackets.over_tree hopening hclosing) ?_
  exact hfold forms _ (fun f t => Form.over_tree hopening hclosing) ht

/-! ## The standard conversion -/

/-- The tree that the standard forms write. -/
def explicitTree (aligned : Bool) (t : Text) : Markup :=
  (Form.standard.tree aligned .lenticular t).expand (Form.braced.tree aligned .lenticular)

/-- The tree that the braces write, with resolved escapes. -/
def bracesTree (aligned : Bool) : Text → Markup := fun t =>
  (Brackets.braces.tree aligned .lenticular t).expand (Markup.text ∘ unescape .lenticular)

/-- The tree that the standard pairs write, with resolved escapes. -/
def detectedTree (aligned : Bool) : Text → Markup := fun t =>
  (Brackets.lenticular.tree aligned .lenticular t).expand (bracesTree aligned)

/-- The standard options without detection. -/
def Options.strictWith (aligned : Bool) : Options :=
  { Options.standardWith aligned with strictMode := true }

lemma isPlain_standardForms : ∀ f ∈ [Form.standard, Form.braced], ∀ c ∈ f.marks, IsPlain c := by
  intro f hf c hc
  exact ((Form.standard_marks (by simpa using hf)).2.2.2 c hc).2.2.2

lemma isPlain_standardPairs :
    ∀ b ∈ [Brackets.lenticular, Brackets.braces], IsPlain b.opening ∧ IsPlain b.closing := by
  intro b hb
  exact (Brackets.standard_glyphs (by simpa using hb)).2.2.2

lemma ne_angle_lenticular :
    Brackets.lenticular.opening ≠ '<' ∧ Brackets.lenticular.closing ≠ '<' := by decide

/-- **The tree of the standard conversion.** -/
theorem reads_standard {t : Text} (ht : '<' ∉ t) (aligned : Bool) :
    Reads ((Options.standardWith aligned).render t)
      ((explicitTree aligned t).expand (detectedTree aligned)) := by
  have htree : (explicitTree aligned t).expand (detectedTree aligned)
      = convertTree [.standard, .braced] [.lenticular, .braces] aligned .lenticular t := by
    simp only [explicitTree, convertTree, List.foldl_cons, List.foldl_nil, Markup.expand_text,
      Markup.expand_expand]
    rfl
  rw [htree]
  refine ⟨over_convertTree ne_angle_lenticular.1 ne_angle_lenticular.2 fun c hc => ?_, ?_⟩
  · rintro rfl
    exact ht hc
  · rw [toText_convertTree isPlain_standardForms isPlain_standardPairs isPlain_lenticular,
      Options.render, Options.activeForms, Options.activePairs]
    simp [Options.standardWith, Options.standard, Options.detects, compileList_defaultForms,
      compileList_defaultAutoBracketSets, Options.fallback]
    rfl

/-- The tree of the standard conversion without detection. -/
theorem reads_strict {t : Text} (ht : '<' ∉ t) (aligned : Bool) :
    Reads ((Options.strictWith aligned).render t)
      ((explicitTree aligned t).expand (Markup.text ∘ unescape .lenticular)) := by
  have htree : (explicitTree aligned t).expand (Markup.text ∘ unescape .lenticular)
      = convertTree [.standard, .braced] [] aligned .lenticular t := rfl
  rw [htree]
  refine ⟨over_convertTree ne_angle_lenticular.1 ne_angle_lenticular.2 fun c hc => ?_, ?_⟩
  · rintro rfl
    exact ht hc
  · rw [toText_convertTree isPlain_standardForms (by simp) isPlain_lenticular, Options.render,
      Options.activeForms, Options.activePairs]
    simp [Options.strictWith, Options.standardWith, Options.standard, Options.detects,
      compileList_defaultForms, Options.fallback]
    rfl

end Furigana
