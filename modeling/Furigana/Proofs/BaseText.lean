import Mathlib
import Furigana.Proofs.Draft

/-!
# Alignment and the base text

Alignment decides how the gloss of a word under a form is distributed, and leaves a part of the word
behind without a gloss.  The passes of the pairs scan that part again, together with what follows it,
while without alignment the whole word stands inside one annotation.  So the base text, what is left
without glosses, is the same unless a gloss in brackets attaches to the part that was left behind.

* `Occurrence.trailing` — the part of a word behind its last annotation;
* `Brackets.base_expand_passTree` — alignment does not change the base that the pairs leave;
* `base_detectedTree_append` — text in front of another one keeps its base if no gloss attaches to it
  across the seam;
* `Draft.Keeps`, `Draft.base_expand_tree` — the base of a text with words under forms in it;
* `Engine.render_base` — the base of a conversion, with and without detection.
-/

namespace Furigana

variable {aligned : Bool} {t u v : Text} {m : Markup} {K : Text → Markup}

/-! ## Behind the last annotation -/

/-- The text without annotation that a segment leaves, if `t` stands in front of it. -/
def Segment.after (t : Text) : Segment → Text
  | .ruby _ _ => []
  | .literal u => t ++ u

/-- The part of an aligned word behind its last annotation. -/
def Form.Occurrence.trailing (o : Occurrence) : Text :=
  (o.segments true).foldl Segment.after []

/-- **The base of segments** is that of their texts, if the expansion keeps these.  What stands behind
the last annotation is expanded together with what follows. -/
lemma Markup.exists_base_expand_segments {b : Brackets} {segments : List Segment}
    (hK : ∀ x, x <:+: v ++ segments.flatMap Segment.base → (K x).base = x) (m : Markup) :
    ∃ front, front ++ segments.foldl Segment.after v = v ++ segments.flatMap Segment.base ∧
      ((text v ++ (ofSegments b segments ++ m)).expand K).base
        = front ++ ((text (segments.foldl Segment.after v) ++ m).expand K).base := by
  induction segments generalizing v with
  | nil => exact ⟨[], by simp, by simp [ofSegments]⟩
  | cons s rest ih =>
      cases s with
      | literal u =>
          obtain ⟨front, hfront, hbase⟩ := ih (v := v ++ u) fun x hx => hK x (by
            simpa [Segment.base] using hx)
          refine ⟨front, by simpa [Segment.base, Segment.after] using hfront, ?_⟩
          rw [ofSegments, ofSegment, append_assoc, ← append_assoc, text_append_text, hbase]
          rfl
      | ruby base gloss =>
          have hv : (K v).base = v := hK v (List.prefix_append _ _).isInfix
          have hword : (K base).base = base := hK base ⟨v, rest.flatMap Segment.base, by
            simp [Segment.base]⟩
          have hnil : (K []).base = [] := hK [] List.nil_infix
          obtain ⟨front, hfront, hbase⟩ := ih (v := []) fun x hx => hK x (hx.trans ⟨v ++ base, [], by
            simp [Segment.base]⟩)
          rw [text_nil_append] at hbase
          refine ⟨v ++ base ++ front, ?_, ?_⟩
          · simpa [Segment.base, Segment.after] using hfront
          · simp [ofSegments, ofSegment, hv, hword, hnil, hbase, Segment.after]

/-- The same for an aligned word: what it leaves behind is expanded with what follows the word. -/
lemma Form.Occurrence.exists_base_expand (o : Occurrence) (hK : ∀ x, x <:+: o.word → (K x).base = x)
    (m : Markup) :
    ∃ front, front ++ o.trailing = o.word ∧
      ((Markup.ofSegments .lenticular (o.segments true) ++ m).expand K).base
        = front ++ ((Markup.text o.trailing ++ m).expand K).base := by
  have hword : [] ++ (o.segments true).flatMap Segment.base = o.word := o.flatMap_base_segments true
  rw [← hword] at hK ⊢
  obtain ⟨front, hfront, hbase⟩ :=
    Markup.exists_base_expand_segments (b := .lenticular) hK m
  rw [Markup.text_nil_append] at hbase
  exact ⟨front, hfront, hbase⟩

lemma Form.Occurrence.trailing_suffix (o : Occurrence) : o.trailing <:+ o.word := by
  obtain ⟨front, hfront, _⟩ := o.exists_base_expand (K := .text) (fun x _ => rfl) (.text [])
  exact ⟨front, hfront⟩

/-! ## Detected words -/

lemma foldl_after_spread (base : Text) (readings : List Text) :
    (spread base readings).foldl Segment.after [] = [] := by
  fun_induction spread base readings with
  | case1 base reading => rfl
  | case2 c base reading readings _ ih => exact ih
  | case3 base readings => rfl

/-- Behind the annotations of a detected word stand its kana. -/
lemma Detection.foldl_after_segments (aligned : Bool) (d : Detection) :
    (d.segments aligned).foldl Segment.after [] = d.suffix := by
  cases aligned with
  | false => rfl
  | true =>
      have hdistribute : ∀ gloss, (distribute d.base gloss).foldl Segment.after [] = [] := by
        intro gloss
        rw [distribute]
        split_ifs
        · exact foldl_after_spread _ _
        · rfl
      rw [segments, if_pos rfl, split, List.foldl_append, hdistribute]
      cases d.suffix <;> rfl

/-- The base of a detected word.  Its kana are expanded together with what follows. -/
lemma Detection.base_expand_segments (hK : ∀ x, (∀ c ∈ x, IsWordy c) → K x = .text x)
    {b : Brackets} {d : Detection} (hd : b.IsWord d) (aligned : Bool) (v : Text) (m : Markup) :
    ((Markup.text v ++ (.ofSegments .lenticular (d.segments aligned) ++ m)).expand K).base
      = (K v).base ++ (d.base ++ ((Markup.text d.suffix ++ m).expand K).base) := by
  have hwordy : ∀ x, x <:+: [] ++ (d.segments aligned).flatMap Segment.base → (K x).base = x := by
    intro x hx
    rw [List.nil_append, flatMap_base_segments] at hx
    have hover : ∀ c ∈ x, IsWordy c := by
      intro c hc
      rcases List.mem_append.1 (hx.subset hc) with h | h
      · exact isWordy_of_isLogographic (hd.base c h)
      · exact isWordy_of_kana (hd.suffix c h)
    rw [hK x hover]
    rfl
  obtain ⟨front, hfront, hbase⟩ := Markup.exists_base_expand_segments (b := .lenticular) hwordy m
  rw [foldl_after_segments, flatMap_base_segments, List.nil_append] at hfront
  obtain ⟨base, reading, more, hmore⟩ := exists_ruby_segments aligned hd.base_ne
  have hlead : (Markup.text v ++ (.ofSegments .lenticular (d.segments aligned) ++ m)).expand K
      = K v ++ (Markup.ofSegments .lenticular (d.segments aligned) ++ m).expand K := by
    rw [hmore]
    exact Markup.expand_text_append_element (hK [] (by simp)) _ _ _ _
  rw [Markup.text_nil_append, foldl_after_segments] at hbase
  rw [hlead, Markup.base_append, hbase, List.append_cancel_right hfront]

/-- The same with the character in front of the word. -/
lemma Detection.base_expand_tree (hK : ∀ x, (∀ c ∈ x, IsWordy c) → K x = .text x)
    {b : Brackets} {d : Detection} (hd : b.IsWord d) (aligned : Bool) (v : Text) (m : Markup) :
    ((Markup.text v ++ (Detection.tree aligned .lenticular d ++ m)).expand K).base
      = (K (v ++ d.boundary)).base ++ (d.base ++ ((Markup.text d.suffix ++ m).expand K).base) := by
  rw [← base_expand_segments hK hd aligned (v ++ d.boundary) m, Detection.tree, Markup.append_assoc,
    ← Markup.append_assoc, Markup.text_append_text]

namespace Brackets

variable {b : Brackets}

/-- **The base that a pass of a pair leaves** does not depend on alignment. -/
lemma base_expand_passTree {K' : Text → Markup} (hK : ∀ x, (∀ c ∈ x, IsWordy c) → K x = .text x)
    (hK' : ∀ x, (∀ c ∈ x, IsWordy c) → K' x = .text x) (h : ∀ x, (K x).base = (K' x).base)
    (before : Option Char) (t : Text) : ∀ v,
      ((Markup.text v
        ++ passTree b.detect (Detection.tree true .lenticular) before t).expand K).base
      = ((Markup.text v
        ++ passTree b.detect (Detection.tree false .lenticular) before t).expand K').base := by
  refine pass_induction (isSearch_detect b) (motive := fun before t => ∀ v,
      ((Markup.text v
        ++ passTree b.detect (Detection.tree true .lenticular) before t).expand K).base
      = ((Markup.text v
        ++ passTree b.detect (Detection.tree false .lenticular) before t).expand K').base)
    ?_ ?_ ?_ before t
  · intro before v
    simp [h]
  · intro before c t hnone ih v
    simp only [passTree_cons hnone, ← Markup.append_assoc, Markup.text_append_text, ih]
  · intro before matched t d hsome hne ih v
    have hd := (detect_eq_some hsome).2.1
    rw [passTree_append_found hsome hne, passTree_append_found hsome hne]
    split_ifs
    · simp only [← Markup.append_assoc, Markup.text_append_text, ih]
    · rw [Detection.base_expand_tree hK hd, Detection.base_expand_tree hK' hd, h, ih]

/-- The lead of what a pass of a pair writes is the start of the text. -/
lemma lead_tree_prefix (b : Brackets) (aligned : Bool) (fallback : Brackets) (t : Text) :
    (b.tree aligned fallback t).lead <+: t := by
  refine pass_induction (isSearch_detect b) (motive := fun before t =>
    (passTree b.detect (Detection.tree aligned fallback) before t).lead <+: t) ?_ ?_ ?_ none t
  · intro before
    simp [Markup.lead]
  · intro before c t hnone ih
    rw [passTree_cons hnone, Markup.lead_text_append]
    exact (List.prefix_append_right_inj [c]).2 ih
  · intro before matched t d hsome hne ih
    obtain ⟨rfl, hd, _, _⟩ := detect_eq_some hsome
    rw [passTree_append_found hsome hne]
    split_ifs
    · rw [Markup.lead_text_append]
      exact (List.prefix_append_right_inj _).2 ih
    · obtain ⟨base, reading, more, hmore⟩ := Detection.exists_ruby_segments aligned hd.base_ne
      rw [Detection.tree, hmore, Markup.append_assoc, Markup.lead_text_append, write_append]
      simp [Markup.ofSegments, Markup.ofSegment, Markup.lead]

/-! ## Text in front -/

/-- A character in front of a text keeps its place, unless it is an ideograph with a gloss.  As one
more ideograph in front of a detected word it becomes a part of the base. -/
lemma base_expand_tree_cons (hK : ∀ x, (∀ c ∈ x, IsWordy c) → K x = .text x) {c : Char}
    (hc : IsWordy c) (hglosses : isLogographic c → ¬ b.Glosses t) (ht : '<' ∉ t)
    (hv : ∀ e ∈ v, IsWordy e) :
    ((Markup.text v ++ b.tree aligned .lenticular (c :: t)).expand K).base
      = ((Markup.text (v ++ [c]) ++ b.tree aligned .lenticular t).expand K).base := by
  have hsingle : ∀ e ∈ [c], IsWordy e := by simpa using hc
  have hesc : c ≠ escapeChar := by
    rintro rfl
    exact notMem_of_isWordy hsingle (by decide) (List.mem_singleton_self escapeChar)
  have hsplit : b.tree aligned .lenticular (c :: t) = .text [c] ++ b.tree aligned .lenticular t →
      ((Markup.text v ++ b.tree aligned .lenticular (c :: t)).expand K).base
        = ((Markup.text (v ++ [c]) ++ b.tree aligned .lenticular t).expand K).base := by
    intro h
    rw [h, ← Markup.append_assoc, Markup.text_append_text]
  by_cases hlog : isLogographic c
  · cases hfind : b.detect (c :: t) with
    | none =>
        refine hsplit ?_
        rw [tree, passTree_cons hfind, passTree_eq_none (by simpa using hesc)]
    | some r =>
        obtain ⟨d, matched⟩ := r
        obtain ⟨d', matched', hfind', hboundary, rfl, rfl⟩ :=
          detect_cons_eq_some hlog (hglosses hlog) hfind
        obtain ⟨hne, rest, rfl⟩ := isSearch_detect b _ _ _ hfind'
        have hescaped : isEscaped none (c :: matched') = isEscaped none matched' := by
          simp [isEscaped, hesc.symm]
        have hbehind : behind none (c :: matched') = behind none matched' := by
          rw [behind_cons, behind_of_ne_nil _ hne, behind_of_ne_nil _ hne]
        rw [tree, ← List.cons_append, passTree_append_found hfind (by simp),
          passTree_append_found hfind' hne, hescaped, hbehind]
        split_ifs
        · simp [← Markup.append_assoc]
        · have hd := (detect_eq_some hfind).2.1
          have hd' := (detect_eq_some hfind').2.1
          have hself : ∀ x, (∀ e ∈ x, IsWordy e) → (K x).base = x := fun x hx => by
            rw [hK x hx]
            rfl
          have hvc : ∀ e ∈ v ++ [c], IsWordy e := by simpa [or_imp, forall_and] using ⟨hv, hc⟩
          rw [Detection.base_expand_tree hK hd, Detection.base_expand_tree hK hd']
          simp [hboundary, hself v hv, hself (v ++ [c]) hvc]
  · refine hsplit (tree_cons_of_not_logographic ne_angle_lenticular hlog hesc ?_)
    simp only [List.mem_cons, not_or]
    refine ⟨?_, ht⟩
    rintro rfl
    exact notMem_of_isWordy hsingle (by decide) (List.mem_singleton_self '<')

/-- The same for a text to which no gloss attaches. -/
lemma base_expand_tree_append (hK : ∀ x, (∀ c ∈ x, IsWordy c) → K x = .text x)
    (hu : ∀ c ∈ u, IsWordy c) (ht : '<' ∉ t) (h : ¬ b.Attaches u t) (hv : ∀ c ∈ v, IsWordy c) :
    ((Markup.text v ++ b.tree aligned .lenticular (u ++ t)).expand K).base
      = ((Markup.text (v ++ u) ++ b.tree aligned .lenticular t).expand K).base := by
  induction u generalizing v with
  | nil => simp
  | cons c u ih =>
      rw [attaches_cons, not_or, not_and] at h
      have hc := hu c (by simp)
      have hu' : ∀ e ∈ u, IsWordy e := fun e he => hu e (List.mem_cons_of_mem _ he)
      have hut : '<' ∉ u ++ t := by
        simp only [List.mem_append, not_or]
        exact ⟨notMem_of_isWordy hu' (by decide), ht⟩
      rw [List.cons_append, base_expand_tree_cons hK hc h.1 hut hv,
        ih hu' h.2 (by simpa [or_imp, forall_and] using ⟨hv, hc⟩)]
      simp

lemma base_expand_tree_behind (hK : ∀ x, (∀ c ∈ x, IsWordy c) → K x = .text x)
    (hu : ∀ c ∈ u, IsWordy c) (ht : '<' ∉ t) (h : ¬ b.Attaches u t) :
    ((b.tree aligned .lenticular (u ++ t)).expand K).base
      = ((Markup.text u ++ b.tree aligned .lenticular t).expand K).base := by
  rw [← Markup.text_nil_append (b.tree aligned .lenticular (u ++ t)),
    base_expand_tree_append hK hu ht h (by simp), List.nil_append]

end Brackets

/-! ## The pairs -/

/-- **Alignment does not change the base that the pairs leave.** -/
lemma base_detectedTree (t : Text) : (detectedTree true t).base = (detectedTree false t).base := by
  have hbraces : ∀ x, (bracesTree true x).base = (bracesTree false x).base := by
    intro x
    have hunescape : ∀ y, (∀ c ∈ y, IsWordy c) →
        (Markup.text ∘ unescape .lenticular) y = .text y :=
      fun y hy => congrArg _ (unescape_of_isWordy hy)
    have hpass := Brackets.base_expand_passTree (b := .braces) hunescape hunescape (fun _ => rfl)
      none x []
    rwa [Markup.text_nil_append, Markup.text_nil_append] at hpass
  have hpass := Brackets.base_expand_passTree (b := .lenticular) (fun _ => bracesTree_of_isWordy)
    (fun _ => bracesTree_of_isWordy) hbraces none t []
  rwa [Markup.text_nil_append, Markup.text_nil_append] at hpass

/-- **Text in front** of another one keeps its base if no gloss attaches to it across the seam. -/
lemma base_detectedTree_append (hu : ∀ c ∈ u, IsWordy c) (ht : '<' ∉ t)
    (hlenticular : ¬ Brackets.lenticular.Attaches u t) (hbraces : ¬ Brackets.braces.Attaches u t) :
    (detectedTree aligned (u ++ t)).base = u ++ (detectedTree aligned t).base := by
  have hunescape : ∀ x, (∀ c ∈ x, IsWordy c) →
      (Markup.text ∘ unescape .lenticular) x = .text x :=
    fun x hx => congrArg _ (unescape_of_isWordy hx)
  have hunescape_append : ∀ x, (Markup.text ∘ unescape .lenticular) (u ++ x)
      = .text u ++ (Markup.text ∘ unescape .lenticular) x := by
    intro x
    exact congrArg _ (unescape_append_plain (notMem_of_isWordy hu (by decide)) x)
  -- the second pair and the escapes find the text in front of what the first pair left
  have hstart := Brackets.lead_tree_prefix .lenticular aligned .lenticular t
  have hlead : (bracesTree aligned
      (u ++ (Brackets.lenticular.tree aligned .lenticular t).lead)).base
        = u ++ (bracesTree aligned (Brackets.lenticular.tree aligned .lenticular t).lead).base := by
    rw [bracesTree, Brackets.base_expand_tree_behind hunescape hu (fun h => ht (hstart.subset h))
        (fun h => hbraces (h.mono hstart)), Markup.expand_text_append hunescape_append,
      Markup.base_append]
    rfl
  rw [detectedTree, Brackets.base_expand_tree_behind (fun _ => bracesTree_of_isWordy) hu ht
    hlenticular, Markup.base_expand_text_append hlead, detectedTree]

/-! ## Words under forms -/

/-- Whether an expansion keeps the base of the words that alignment cuts: of every part of the word,
and of the part behind the last annotation also in front of the text that follows. -/
def Draft.Keeps (F : Text → Markup) : Draft → Prop
  | plain _ => True
  | word _ _ o rest =>
      (o.segments true = [.ruby o.word o.gloss] ∨
        (∀ x, x <:+: o.word → (F x).base = x) ∧
          (F (o.trailing ++ rest.lead)).base = o.trailing ++ (F rest.lead).base) ∧
      rest.Keeps F

/-- **The base of a text with words under forms** does not depend on alignment if the expansion keeps
the words. -/
theorem Draft.base_expand_tree {F : Text → Markup} (hnil : F [] = .text []) {d : Draft}
    (hd : d.Keeps F) : ((d.tree true).expand F).base = ((d.tree false).expand F).base := by
  induction d with
  | plain t => rfl
  | word lead f o rest ih =>
      obtain ⟨hword, hrest⟩ := hd
      have hstep : ∀ al, (((word lead f o rest).tree al).expand F).base = (F lead).base
          ++ ((Markup.ofSegments .lenticular (o.segments al) ++ rest.tree al).expand F).base := by
        intro al
        obtain ⟨base, reading, more, hmore⟩ := o.exists_ruby_segments al
        rw [tree, hmore, ← Markup.base_append]
        exact congrArg _ (Markup.expand_text_append_element hnil _ _ _ _)
      have hwhole : ∀ m, ((Markup.ofSegments .lenticular [.ruby o.word o.gloss] ++ m).expand F).base
          = (F o.word).base ++ (m.expand F).base := by
        intro m
        simp [Markup.ofSegments, Markup.ofSegment, hnil, Markup.base]
      have hfalse : o.segments false = [.ruby o.word o.gloss] := rfl
      rw [hstep, hstep, hfalse, hwhole]
      congr 1
      rcases hword with hatomic | ⟨hparts, hseam⟩
      · rw [hatomic, hwhole, ih hrest]
      · obtain ⟨front, hfront, hbase⟩ := o.exists_base_expand hparts (rest.tree true)
        rw [← lead_tree true] at hseam
        calc ((Markup.ofSegments .lenticular (o.segments true) ++ rest.tree true).expand F).base
            = front ++ ((Markup.text o.trailing ++ rest.tree true).expand F).base := hbase
          _ = front ++ (o.trailing ++ ((rest.tree true).expand F).base) := by
              rw [Markup.base_expand_text_append hseam]
          _ = (F o.word).base ++ ((rest.tree false).expand F).base := by
              rw [hparts o.word List.infix_rfl, ih hrest, ← List.append_assoc, hfront]

/-! ## The conversion -/

/-- No gloss in brackets attaches to a word that alignment cuts: none inside the word, and none of
what follows to the part behind its last annotation.  The words are those under a standard form with
no escape in front. -/
def GlossesApart (t : Text) : Prop :=
  ∀ f, f = Form.standard ∨ f = Form.braced → ∀ (a : Text) (o : Form.Occurrence) (r : Text),
    t = a ++ (f.write o ++ r) → o.IsInner → a.getLast? ≠ some escapeChar →
      o.segments true = [.ruby o.word o.gloss] ∨
        ¬ Brackets.lenticular.Attaches o.word [] ∧
          ¬ Brackets.lenticular.Attaches o.trailing r ∧ ¬ Brackets.braces.Attaches o.trailing r

lemma Form.Occurrence.IsInner.isWordy_word {o : Occurrence} (ho : o.IsInner) :
    ∀ c ∈ o.word, IsWordy c := fun c hc => Or.inl (ho.word c hc)

lemma Form.Occurrence.IsInner.isWordy_trailing {o : Occurrence} (ho : o.IsInner) :
    ∀ c ∈ o.trailing, IsWordy c := fun c hc => ho.isWordy_word c (o.trailing_suffix.subset hc)

/-- Resolving escapes keeps words. -/
lemma Draft.keeps_unescape {before : Option Char} {d : Draft} (hd : d.IsFree before) :
    d.Keeps (Markup.text ∘ unescape .lenticular) := by
  induction d generalizing before with
  | plain t => trivial
  | word lead f o rest ih =>
      have ho := hd.2.2.1
      refine ⟨Or.inr ⟨?_, ?_⟩, ih hd.2.2.2⟩
      · intro x hx
        exact unescape_of_isWordy fun c hc => ho.isWordy_word c (hx.subset hc)
      · exact unescape_append_plain (notMem_of_isWordy ho.isWordy_trailing (by decide)) _

/-- The pairs keep words to which no gloss attaches. -/
lemma Draft.keeps_detectedTree {a : Text} {d : Draft} (h : GlossesApart (a ++ d.write))
    (hd : d.IsFree a.getLast?) (ht : '<' ∉ d.write) : d.Keeps (detectedTree aligned) := by
  induction d generalizing a with
  | plain t => trivial
  | word lead f o rest ih =>
      obtain ⟨hlead, hf, ho, hrest⟩ := hd
      rw [behind, ← List.getLast?_append] at hlead
      have hangle : '<' ∉ rest.write := fun hmem => ht (by simp [write, hmem])
      refine ⟨?_, ih (a := a ++ lead ++ f.write o) ?_ ?_ hangle⟩
      · refine (h f hf (a ++ lead) o rest.write (by simp [write]) ho hlead).imp_right ?_
        rintro ⟨hword, hlenticular, hbraces⟩
        refine ⟨?_, ?_⟩
        · intro x hx
          have hwordy : ∀ c ∈ x, IsWordy c := fun c hc => ho.isWordy_word c (hx.subset hc)
          rw [detectedTree_of_isWordy hwordy,
            Brackets.tree_eq_text_of_not_attaches fun hattaches => hword (hattaches.of_part hx)]
          rfl
        · have hstart := rest.lead_prefix
          exact base_detectedTree_append ho.isWordy_trailing
            (fun hmem => hangle (hstart.subset hmem))
            (fun hattaches => hlenticular (hattaches.mono hstart))
            fun hattaches => hbraces (hattaches.mono hstart)
      · simpa [write] using h
      · refine hrest.of_ne_escape ?_
        rw [List.getLast?_append]
        exact behind_ne_escape_of_ne_nil _ (f.write_ne_nil o)
          (Form.escape_notMem_write (Form.escape_notMem_marks hf) ho)

/-- **Alignment and the base text.**  For every text without `<`, what a shared engine returns without
detection has the same base text whether glosses are aligned or not.  With detection it has the same
base text as well, if no gloss in brackets attaches to a word under a form that alignment cuts. -/
theorem Engine.render_base {e : Engine} (he : e.Reachable) {t : Text} (ht : '<' ∉ t) :
    (∃ m n, Reads (e.render (Options.strictWith true) t).1 m ∧
      Reads (e.render (Options.strictWith false) t).1 n ∧ m.base = n.base) ∧
    (GlossesApart t → ∃ m n, Reads (e.render (Options.standardWith true) t).1 m ∧
      Reads (e.render (Options.standardWith false) t).1 n ∧ m.base = n.base) := by
  obtain ⟨d, rfl, hfree, htree⟩ := exists_draft t
  simp only [he.render_eq]
  refine ⟨⟨_, _, reads_strict ht true, reads_strict ht false, ?_⟩,
    fun h => ⟨_, _, reads_standard ht true, reads_standard ht false, ?_⟩⟩
  · have hkeeps : d.Keeps (Markup.text ∘ unescape .lenticular) := Draft.keeps_unescape hfree
    have hnil : (Markup.text ∘ unescape .lenticular) [] = .text [] := rfl
    rw [← htree, ← htree, Draft.base_expand_tree hnil hkeeps]
  · have hkeeps : d.Keeps (detectedTree true) := Draft.keeps_detectedTree (a := []) h hfree ht
    have hnil : detectedTree true [] = .text [] :=
      (detectedTree_of_isWordy (by simp)).trans (passTree_nil none)
    rw [← htree, ← htree, Draft.base_expand_tree hnil hkeeps,
      Markup.base_expand_congr base_detectedTree]

/-- A word that the gloss reaches the end of, with a gloss in brackets behind it. -/
theorem Engine.render_base_reaching_gloss :
    ∃ t, t = "[食べ物]^(たべもの)【もの】".toList ∧ '<' ∉ t ∧ GlossesApart t ∧
      (∃ m n, Reads (fresh.render (Options.strictWith true) t).1 m ∧
        Reads (fresh.render (Options.strictWith false) t).1 n ∧ m.base = n.base) ∧
      ∃ m n, Reads (fresh.render (Options.standardWith true) t).1 m ∧
        Reads (fresh.render (Options.standardWith false) t).1 n ∧ m.base = n.base := by
  have ht : '<' ∉ "[食べ物]^(たべもの)【もの】".toList := by decide
  have hapart : GlossesApart "[食べ物]^(たべもの)【もの】".toList := by
    intro f hf a o r h ho _
    have hword : ']' ∉ o.word := Form.notMem_of_isInner (by decide) ho.word
    have hgloss : ')' ∉ o.gloss := Form.notMem_of_isInner (by decide) ho.gloss
    have hmain := (Form.standard_marks hf).1
    rw [Form.write_append, hmain] at h
    obtain rfl : a = [] := by
      cases a with
      | nil => rfl
      | cons c a =>
          have htail := congrArg List.tail h
          exact absurd (show '[' ∈ List.tail _ by rw [htail]; simp) (by decide)
    rw [Form.middle, hmain] at h
    obtain ⟨hw, h⟩ := Markup.lead_inj (by decide) hword (Or.inr rfl) (Or.inr rfl)
      (show ['食', 'べ', '物'] ++ "]^(たべもの)【もの】".toList = _ from (List.cons.inj h).2)
    rcases hf with rfl | rfl
    · obtain ⟨hg, _⟩ := Markup.lead_inj (by decide) hgloss (Or.inr rfl) (Or.inr rfl)
        (show ['た', 'べ', 'も', 'の'] ++ ")【もの】".toList = _ from
          List.append_cancel_left (show "]^(".toList ++ _ = "]^(".toList ++ _ from h))
      have hnone : ∀ b : Brackets, ¬ b.Attaches [] r := by
        rintro b ⟨x, c, z, hx, _⟩
        simp at hx
      obtain ⟨word, gloss⟩ := o
      obtain ⟨rfl, rfl⟩ : word = ['食', 'べ', '物'] ∧ gloss = ['た', 'べ', 'も', 'の'] :=
        ⟨hw.symm, hg.symm⟩
      have htrailing : Form.Occurrence.trailing ⟨['食', 'べ', '物'], ['た', 'べ', 'も', 'の']⟩ = [] := by
        decide
      rw [htrailing]
      exact Or.inr ⟨Brackets.not_attaches_of_notMem (by decide), hnone _, hnone _⟩
    · exact absurd h (by simp [Form.braced])
  obtain ⟨hstrict, hstandard⟩ := render_base Reachable.fresh ht
  exact ⟨_, rfl, ht, hapart, hstrict, hstandard hapart⟩

/-- A word that the gloss does not reach the end of: what alignment leaves behind is detected with the
gloss in brackets. -/
theorem Engine.render_base_short_gloss :
    ∃ t m n, t = "[食べ物]^(たべ)【もの】".toList ∧ '<' ∉ t ∧
      Reads (fresh.render (Options.standardWith true) t).1 m ∧
      Reads (fresh.render (Options.standardWith false) t).1 n ∧
      m.base = "食べ物".toList ∧ n.base = "食べ物【もの】".toList ∧ m.base ≠ n.base := by
  let m : Markup := .ofSegments .lenticular
    [.ruby ['食'] ['た'], .literal ['べ'], .ruby ['物'] ['も', 'の']]
  let n : Markup := .ofSegments .lenticular
    [.ruby ['食', 'べ', '物'] ['た', 'べ'], .literal ['【', 'も', 'の', '】']]
  refine ⟨_, m, n, rfl, by decide, ⟨?_, by decide +kernel⟩, ⟨?_, by decide +kernel⟩, by decide,
    by decide, by decide⟩
  · simp [m, Markup.ofSegments, Markup.ofSegment, Markup.Over, ne_angle_lenticular]
  · simp [n, Markup.ofSegments, Markup.ofSegment, Markup.Over, ne_angle_lenticular]

end Furigana
