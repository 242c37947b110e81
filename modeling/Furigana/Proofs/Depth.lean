import Mathlib
import Furigana.Proofs.Detection.Attachment

/-!
# Annotations inside annotations

The passes of the forms run first, and those of the pairs scan what they wrote, words and glosses
included.  So an annotation can end up inside another one, and this file says when.

* `depth_explicitTree_le`, `depth_detectedTree_le` — the forms nest nothing, and neither do the pairs
  where no form was;
* `Brackets.depth_tree_pos_iff` — text without escapes is annotated exactly where a gloss attaches to
  an ideograph;
* `two_le_depth_iff` — the standard conversion nests exactly where a word or a gloss of a form
  holds such a place;
* `Engine.render_depth` — the same for a shared engine, in terms of what it returns with and without
  detection.
-/

namespace Furigana

variable {aligned : Bool} {t : Text} {m : Markup}

/-! ## The forms and the pairs alone -/

/-- Two passes nest nothing if the second one leaves alone what words and glosses hold. -/
lemma depth_expand_le_one {F : Text → Markup} (hm : m.depth ≤ 1)
    (hrubies : ∀ c ∈ m.rubies, c.Over IsWordy) (hF : ∀ t, (F t).depth ≤ 1)
    (hwordy : ∀ t, (∀ c ∈ t, IsWordy c) → F t = .text t) : (m.expand F).depth ≤ 1 := by
  by_contra hdeep
  obtain ⟨c, hc, hcdepth⟩ := (Markup.lt_depth_expand_iff hF m).1 (not_le.1 hdeep)
  have hself : c.expand F = c :=
    Markup.expand_eq_self fun t ht => hwordy t (Markup.over_iff.1 (hrubies c hc) t ht)
  have hlt := Markup.depth_lt_of_mem_rubies hc
  rw [hself] at hcdepth
  omega

/-- What words and glosses hold is no occurrence of a form. -/
lemma Form.tree_of_isWordy (ht : ∀ c ∈ t, IsWordy c) :
    Form.braced.tree aligned .lenticular t = .text t :=
  Form.tree_eq_text (notMem_of_isWordy ht (by decide)) aligned .lenticular

lemma Brackets.tree_braces_of_isWordy (ht : ∀ c ∈ t, IsWordy c) :
    Brackets.braces.tree aligned .lenticular t = .text t :=
  tree_eq_text_of_not_attaches
    (not_attaches_of_notMem (notMem_of_isWordy ht (by decide)))

lemma unescape_of_isWordy (ht : ∀ c ∈ t, IsWordy c) : unescape .lenticular t = t := by
  have hesc : escapeChar ∉ t := notMem_of_isWordy ht (by decide)
  exact unescape_eq_self hesc

/-- The forms nest nothing. -/
lemma depth_explicitTree_le (aligned : Bool) (t : Text) : (explicitTree aligned t).depth ≤ 1 :=
  depth_expand_le_one (Form.depth_tree_le _ _ _ _) (Form.rubies_tree _ _ _)
    (Form.depth_tree_le _ _ _) fun _ => Form.tree_of_isWordy

/-- The annotations of the forms hold words and glosses. -/
lemma rubies_explicitTree (aligned : Bool) (t : Text) :
    ∀ c ∈ (explicitTree aligned t).rubies, c.Over IsWordy := by
  refine Markup.rubies_over_expand (fun t => Form.rubies_tree _ _ t) ?_
  intro c hc
  exact Markup.over_expand (fun t => Form.over_tree isWordy_lenticular.1 isWordy_lenticular.2)
    (Form.rubies_tree _ _ _ c hc)

/-- The braces are not detected in what words and glosses hold. -/
lemma bracesTree_of_isWordy (ht : ∀ c ∈ t, IsWordy c) : bracesTree aligned t = .text t := by
  rw [bracesTree, Brackets.tree_braces_of_isWordy ht]
  exact congrArg _ (unescape_of_isWordy ht)

/-- The pairs nest nothing in plain text. -/
lemma depth_detectedTree_le (aligned : Bool) (t : Text) : (detectedTree aligned t).depth ≤ 1 := by
  refine depth_expand_le_one (Brackets.depth_tree_le _ _ _ _) (Brackets.rubies_tree _ _ _) ?_
    fun _ => bracesTree_of_isWordy
  intro u
  rw [bracesTree, Markup.depth_expand_text]
  exact Brackets.depth_tree_le _ _ _ u

/-- In words and glosses only lenticular brackets are detected. -/
lemma detectedTree_of_isWordy (ht : ∀ c ∈ t, IsWordy c) :
    detectedTree aligned t = Brackets.lenticular.tree aligned .lenticular t := by
  have htree : (Brackets.lenticular.tree aligned .lenticular t).Over IsWordy :=
    Brackets.over_tree isWordy_lenticular.1 isWordy_lenticular.2 ht
  exact Markup.expand_eq_self fun u hu =>
    bracesTree_of_isWordy (Markup.over_iff.1 htree u hu)

/-! ## Where the passes nest -/

/-- A detected word becomes an annotation. -/
lemma Detection.depth_tree_pos {fallback : Brackets} {d : Detection} (hbase : d.base ≠ []) :
    0 < (Detection.tree aligned fallback d).depth := by
  obtain ⟨base, reading, rest, hrest⟩ := exists_ruby_segments aligned hbase
  rw [tree, hrest]
  simp [Markup.ofSegments, Markup.ofSegment, Markup.depth]

/-- A pass over text without escapes that writes no annotation finds nothing in it. -/
lemma Brackets.detect_eq_none_of_depth {b fallback : Brackets} {before : Option Char}
    (hbefore : before ≠ some escapeChar) (hesc : escapeChar ∉ t)
    (hdepth : (passTree b.detect (Detection.tree aligned fallback) before t).depth = 0) :
    ∀ x, x ≠ [] → x <:+ t → b.detect x = none := by
  let motive (before : Option Char) (t : Text) : Prop := before ≠ some escapeChar →
    escapeChar ∉ t → (passTree b.detect (Detection.tree aligned fallback) before t).depth = 0 →
      ∀ x, x ≠ [] → x <:+ t → b.detect x = none
  refine pass_induction (isSearch_detect b) (motive := motive) ?_ ?_ ?_ before t hbefore hesc hdepth
  · intro before _ _ _ x hx hxt
    exact absurd (List.suffix_nil.1 hxt) hx
  · intro before c t hnone ih _ hesc hdepth x hx hxt
    rw [passTree_cons hnone, Markup.depth_append, Nat.max_eq_zero_iff] at hdepth
    simp only [List.mem_cons, not_or] at hesc
    rcases List.suffix_cons_iff.1 hxt with rfl | hxt
    · exact hnone
    · exact ih (fun h => hesc.1 (Option.some.inj h).symm) hesc.2 hdepth.2 x hx hxt
  · intro before matched t d hsome hne ih hbefore hesc hdepth
    exfalso
    have hmatched : escapeChar ∉ matched := fun h => hesc (List.mem_append_left t h)
    have hfree : ¬ isEscaped before matched := by simp [isEscaped, hbefore, hmatched]
    have hpos : 0 < (Detection.tree aligned fallback d).depth :=
      Detection.depth_tree_pos (detect_eq_some hsome).2.1.base_ne
    rw [passTree_append_found hsome hne, if_neg hfree, Markup.depth_append,
      Nat.max_eq_zero_iff] at hdepth
    omega

/-- **When a pass annotates.**  In text without escapes it does so exactly if a gloss attaches to an
ideograph. -/
theorem Brackets.depth_tree_pos_iff {b fallback : Brackets} (hesc : escapeChar ∉ t) :
    0 < (b.tree aligned fallback t).depth ↔ b.Attaches t [] := by
  constructor
  · intro hpos
    by_contra hnone
    simp [tree_eq_text_of_not_attaches hnone, Markup.depth] at hpos
  · rintro ⟨a, c, z, rfl, hc, hz⟩
    rw [List.append_nil] at hz
    by_contra hdepth
    exact detect_cons_ne_none hc hz (detect_eq_none_of_depth (by simp) hesc
      (Nat.eq_zero_of_not_pos hdepth) (c :: z) (by simp) (List.suffix_append a (c :: z)))

/-- Nothing stands inside the annotations of the forms but text. -/
lemma depth_of_mem_rubies_explicitTree {c : Markup} (hc : c ∈ (explicitTree aligned t).rubies) :
    c.depth = 0 := by
  have hlt := Markup.depth_lt_of_mem_rubies hc
  have hle := depth_explicitTree_le aligned t
  omega

/-- What the pairs make of the texts inside an annotation of a form. -/
lemma detectedTree_of_mem_rubies {c : Markup} (hc : c ∈ (explicitTree aligned t).rubies) {u : Text}
    (hu : u ∈ c.texts) :
    detectedTree aligned u = Brackets.lenticular.tree aligned .lenticular u ∧ escapeChar ∉ u := by
  have hwordy := Markup.over_iff.1 (rubies_explicitTree aligned t c hc) u hu
  exact ⟨detectedTree_of_isWordy hwordy, notMem_of_isWordy hwordy (by decide)⟩

/-- **When the standard conversion nests**: a word or a gloss of a form has to hold an ideograph with
a gloss in lenticular brackets. -/
theorem two_le_depth_iff (aligned : Bool) (t : Text) :
    2 ≤ ((explicitTree aligned t).expand (detectedTree aligned)).depth ↔
      ∃ c ∈ (explicitTree aligned t).rubies, ∃ u ∈ c.texts, Brackets.lenticular.Attaches u [] := by
  rw [← Nat.lt_iff_add_one_le, Markup.lt_depth_expand_iff (depth_detectedTree_le aligned)]
  refine exists_congr fun c => and_congr_right fun hc => ?_
  rw [Nat.one_le_iff_ne_zero, ← Nat.pos_iff_ne_zero,
    Markup.depth_expand_pos_iff (depth_of_mem_rubies_explicitTree hc)]
  refine exists_congr fun u => and_congr_right fun hu => ?_
  obtain ⟨htree, hesc⟩ := detectedTree_of_mem_rubies hc hu
  rw [htree, Brackets.depth_tree_pos_iff hesc]

/-- The standard conversion nests at most one annotation inside another. -/
lemma depth_standard_le (aligned : Bool) (t : Text) :
    ((explicitTree aligned t).expand (detectedTree aligned)).depth ≤ 2 := by
  by_contra hdeep
  have hleaf : ∀ u, (detectedTree aligned u).depth ≤ 2 := fun u =>
    (depth_detectedTree_le aligned u).trans (by decide)
  obtain ⟨c, hc, hcdeep⟩ := (Markup.lt_depth_expand_iff hleaf _).1 (not_le.1 hdeep)
  obtain ⟨c', hc', _⟩ := (Markup.lt_depth_expand_iff (depth_detectedTree_le aligned) c).1 hcdeep
  rw [Markup.rubies_eq_nil_iff.2 (depth_of_mem_rubies_explicitTree hc)] at hc'
  exact absurd hc' (by simp)

/-- Where nothing nests, the annotations of the forms stay. -/
lemma rubies_sublist_standard
    (h : ((explicitTree aligned t).expand (detectedTree aligned)).depth ≤ 1) :
    (explicitTree aligned t).rubies.Sublist
      ((explicitTree aligned t).expand (detectedTree aligned)).rubies := by
  refine Markup.rubies_sublist_expand fun c hc => Markup.expand_eq_self fun u hu => ?_
  rw [(detectedTree_of_mem_rubies hc hu).1]
  refine Brackets.tree_eq_text_of_not_attaches fun hattaches => ?_
  have hdeep := (two_le_depth_iff aligned t).2 ⟨c, hc, u, hu, hattaches⟩
  omega

/-- Resolving escapes leaves the annotations of the forms alone. -/
lemma rubies_strict (aligned : Bool) (t : Text) :
    ((explicitTree aligned t).expand (Markup.text ∘ unescape .lenticular)).rubies
      = (explicitTree aligned t).rubies := by
  rw [Markup.rubies_expand_text]
  refine (List.map_congr_left fun c hc => ?_).trans (List.map_id _)
  have hwordy := Markup.over_iff.1 (rubies_explicitTree aligned t c hc)
  exact Markup.expand_eq_self fun u hu => congrArg _ (unescape_of_isWordy (hwordy u hu))

/-- **How deep annotations stand inside each other.**  For every text without `<` and the standard
options, aligned or not, what a shared engine returns without detection nests nothing, and with
detection at most one annotation inside another.  It does nest exactly if some annotation made by a
form holds, in its base or its gloss, an ideograph followed by kana and a gloss in lenticular
brackets; if none does, every annotation made by a form stays as it is. -/
theorem Engine.render_depth {e : Engine} (he : e.Reachable) (aligned : Bool) {t : Text}
    (ht : '<' ∉ t) :
    ∃ s m, Reads (e.render (Options.strictWith aligned) t).1 s ∧
      Reads (e.render (Options.standardWith aligned) t).1 m ∧
      s.depth ≤ 1 ∧ m.depth ≤ 2 ∧
      (2 ≤ m.depth ↔ ∃ c ∈ s.rubies, ∃ u ∈ c.texts, Brackets.lenticular.Attaches u []) ∧
      (m.depth ≤ 1 → s.rubies.Sublist m.rubies) := by
  have hstrict := reads_strict ht aligned
  have hstandard := reads_standard ht aligned
  rw [← he.render_eq] at hstrict hstandard
  refine ⟨_, _, hstrict, hstandard, ?_, depth_standard_le aligned t, ?_, ?_⟩
  · rw [Markup.depth_expand_text]
    exact depth_explicitTree_le aligned t
  · rw [rubies_strict, two_le_depth_iff]
  · rw [rubies_strict]
    exact rubies_sublist_standard

/-- A gloss that holds a word with a gloss. -/
theorem Engine.render_depth_in_gloss :
    ∃ t s m, t = "[記憶]^(明日【あす】)".toList ∧
      Reads (fresh.render (Options.strictWith true) t).1 s ∧
      Reads (fresh.render (Options.standardWith true) t).1 m ∧ s.depth ≤ 1 ∧ m.depth ≤ 2 ∧
      (2 ≤ m.depth ↔ ∃ c ∈ s.rubies, ∃ u ∈ c.texts, Brackets.lenticular.Attaches u []) ∧
      (m.depth ≤ 1 → s.rubies.Sublist m.rubies) := by
  have ht : '<' ∉ "[記憶]^(明日【あす】)".toList := by decide
  obtain ⟨s, m, h⟩ := render_depth Reachable.fresh true ht
  exact ⟨_, s, m, rfl, h⟩

/-- There the pass of the lenticular brackets annotates inside the gloss, aligned or not. -/
theorem Engine.render_nests_in_gloss :
    ∃ t m, t = "[記憶]^(明日【あす】)".toList ∧ '<' ∉ t ∧
      Reads (fresh.render (Options.standardWith true) t).1 m ∧
      Reads (fresh.render (Options.standardWith false) t).1 m ∧ ¬ m.depth ≤ 1 := by
  let gloss : Markup := .ofSegments .lenticular [.ruby ['明', '日'] ['あ', 'す']]
  let m : Markup := .element [] .ruby (.element ['記', '憶'] .rp (.text ['【'])
    (.element [] .rt gloss (.element [] .rp (.text ['】']) (.text [])))) (.text [])
  have hm : m.Over (· ≠ '<') := by
    simp [m, gloss, Markup.ofSegments, Markup.ofSegment, Markup.Over, ne_angle_lenticular]
  refine ⟨_, m, rfl, by decide, ⟨hm, ?_⟩, ⟨hm, ?_⟩, ?_⟩
  · decide +kernel
  · decide +kernel
  · decide

end Furigana
