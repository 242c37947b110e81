import Mathlib
import Furigana.Engine
import Furigana.Proofs.Detection
import Furigana.Proofs.Engine
import Furigana.Proofs.Escape
import Furigana.Proofs.Options

/-!
# Generated markup stays nested

Every pass scans what the passes before it wrote, tags included, and may annotate inside a base or a
gloss.  It never looks across a tag, though, so it works on the text between two tags as it would on
that text alone.

* `IsTag`, `TagLocal` — the six tags, and the functions on texts that work between them;
* `Nests` — tag-local functions that turn text without angle brackets into markup over such text,
  without inventing any character of its base;
* `Nests.markup`, `Nests.foldl` — such functions turn markup into markup, one after the other;
* `Form.nests_apply`, `Brackets.nests_apply`, `nests_unescape` — every step of a conversion is one;
* `Engine.render_nested` — what a conversion of text without angle brackets looks like.
-/

namespace Furigana

/-- A character that is no angle bracket. -/
def IsPlain (c : Char) : Prop := c ≠ '<' ∧ c ≠ '>'

lemma isPlain_of_notMem {t : Text} (hlt : '<' ∉ t) (hgt : '>' ∉ t) : ∀ c ∈ t, IsPlain c :=
  fun _ hc => ⟨fun h => hlt (h ▸ hc), fun h => hgt (h ▸ hc)⟩

/-- One of the six tags. -/
def IsTag (g : Text) : Prop := ∃ tag : Tag, g = tag.opening ∨ g = tag.closing

/-- A function on texts that works between tags. -/
def TagLocal (φ : Text → Text) : Prop :=
  ∀ g, IsTag g → ∀ a t, φ (a ++ (g ++ t)) = φ a ++ (g ++ φ t)

/-- A tag-local function that turns text without angle brackets into markup.  The base of the markup
is a part of the text. -/
structure Nests (φ : Text → Text) : Prop where
  tag : TagLocal φ
  plain : ∀ t, (∀ c ∈ t, IsPlain c) →
    ∃ m : Markup, m.toText = φ t ∧ m.Over IsPlain ∧ m.base.Sublist t

lemma isTag_opening (tag : Tag) : IsTag tag.opening := ⟨tag, Or.inl rfl⟩

lemma isTag_closing (tag : Tag) : IsTag tag.closing := ⟨tag, Or.inr rfl⟩

/-- How a tag is written.  The name is too short for an occurrence of a form. -/
lemma IsTag.eq {g : Text} (h : IsTag g) :
    ∃ name, g = '<' :: (name ++ ['>']) ∧ name.length ≤ 5 ∧
      ∀ c ∈ g, c ≤ '\x7f' ∧ c ≠ escapeChar := by
  obtain ⟨tag, rfl | rfl⟩ := h
  · refine ⟨tag.name, rfl, by cases tag <;> decide, ?_⟩
    cases tag <;> simp [Tag.opening, Tag.name, escapeChar]
  · refine ⟨'/' :: tag.name, rfl, by cases tag <;> decide, ?_⟩
    cases tag <;> simp [Tag.closing, Tag.name, escapeChar]

/-! ## Steps on markup -/

section Steps

variable {φ : Text → Text}

/-- **Markup stays markup**: the text of every element is converted where it stands. -/
theorem Nests.markup (h : Nests φ) {m : Markup} (hm : m.Over IsPlain) :
    ∃ m' : Markup, m'.toText = φ m.toText ∧ m'.Over IsPlain ∧ m'.base.Sublist m.base := by
  induction m with
  | text t => exact h.plain t hm
  | element lead tag content rest ihc ihr =>
      obtain ⟨lead', hlead, hover, hbase⟩ := h.plain lead hm.1
      obtain ⟨content', hcontent, hoverc, hbasec⟩ := ihc hm.2.1
      obtain ⟨rest', hrest, hoverr, hbaser⟩ := ihr hm.2.2
      refine ⟨lead' ++ Markup.element [] tag content' rest', ?_, ?_, ?_⟩
      · calc (lead' ++ Markup.element [] tag content' rest').toText
            = φ lead ++ (tag.opening ++ (φ content.toText ++ (tag.closing ++ φ rest.toText))) := by
              rw [Markup.toText_append, Markup.toText, hlead, hcontent, hrest, List.nil_append]
          _ = φ (Markup.element lead tag content rest).toText := by
              rw [Markup.toText, h.tag _ (isTag_opening tag), h.tag _ (isTag_closing tag)]
      · exact Markup.over_append hover ⟨by simp, hoverc, hoverr⟩
      · rw [Markup.base_append, Markup.base, Markup.base, List.nil_append]
        refine hbase.append (List.Sublist.append ?_ hbaser)
        split_ifs
        · exact hbasec
        · exact List.Sublist.refl _

/-- Steps that keep nesting keep it one after the other. -/
lemma Nests.foldl {α : Type} {step : α → Text → Text} {steps : List α}
    (h : ∀ a ∈ steps, Nests (step a)) {m : Markup} (hm : m.Over IsPlain) :
    ∃ m' : Markup, m'.toText = steps.foldl (fun t a => step a t) m.toText ∧ m'.Over IsPlain ∧
      m'.base.Sublist m.base := by
  induction steps generalizing m with
  | nil => exact ⟨m, rfl, hm, List.Sublist.refl _⟩
  | cons a steps ih =>
      obtain ⟨m₁, htext, hover, hbase⟩ := (h a (by simp)).markup hm
      obtain ⟨m₂, htext', hover', hbase'⟩ := ih (fun b hb => h b (List.mem_cons_of_mem _ hb)) hover
      exact ⟨m₂, by rw [htext', htext, List.foldl_cons], hover', hbase'.trans hbase⟩

end Steps

/-! ## Passes -/

section Passes

variable {α : Type} {find : Text → Option (α × Text)} {replace : α → Text}

/-- A pass works between tags if its search does not look beyond `<` and finds nothing in a tag. -/
lemma tagLocal_pass (hfind : IsSearch find)
    (hseparate : ∀ x t, x ≠ [] → find (x ++ '<' :: t) = find x)
    (htag : ∀ g, IsTag g → ∀ before t,
      pass find replace before (g ++ t) = g ++ pass find replace none t) :
    TagLocal (pass find replace none) := by
  intro g hg a t
  have hlocal : ∀ x, x ≠ [] → x <:+ a → find (x ++ (g ++ t)) = find x := by
    intro x hx _
    obtain ⟨name, rfl, _⟩ := hg.eq
    exact hseparate x _ hx
  rw [pass_append hfind none a hlocal, htag g hg]

/-- A pass turns text without angle brackets into markup if its replacements are such markup. -/
lemma pass_plain (hfind : IsSearch find)
    (hreplace : ∀ t a matched, find t = some (a, matched) → (∀ c ∈ matched, IsPlain c) →
      ∃ m : Markup, m.toText = replace a ∧ m.Over IsPlain ∧ m.base.Sublist matched)
    (before : Option Char) (t : Text) (ht : ∀ c ∈ t, IsPlain c) :
    ∃ m : Markup, m.toText = pass find replace before t ∧ m.Over IsPlain ∧ m.base.Sublist t := by
  let motive (before : Option Char) (t : Text) : Prop := (∀ c ∈ t, IsPlain c) →
    ∃ m : Markup, m.toText = pass find replace before t ∧ m.Over IsPlain ∧ m.base.Sublist t
  refine pass_induction hfind (motive := motive) ?_ ?_ ?_ before t ht
  · intro before _
    exact ⟨.text [], by simp [Markup.toText], by simp [Markup.Over], List.Sublist.refl _⟩
  · intro before c t hnone ih hct
    obtain ⟨m, htext, hover, hbase⟩ := ih fun d hd => hct d (List.mem_cons_of_mem _ hd)
    refine ⟨.text [c] ++ m, ?_, Markup.over_append ?_ hover, ?_⟩
    · rw [Markup.toText_append, htext, pass_cons hnone]
      rfl
    · simpa [Markup.Over] using hct c (by simp)
    · rw [Markup.base_append]
      exact hbase.cons_cons c
  · intro before matched t a hsome hne ih hmt
    have hmatched : ∀ c ∈ matched, IsPlain c := fun c hc => hmt c (List.mem_append_left _ hc)
    obtain ⟨m, htext, hover, hbase⟩ := ih fun c hc => hmt c (List.mem_append_right _ hc)
    have hhead : ∃ m : Markup,
        m.toText = (if isEscaped before matched then matched else replace a) ∧
          m.Over IsPlain ∧ m.base.Sublist matched := by
      split_ifs
      · exact ⟨.text matched, rfl, hmatched, List.Sublist.refl _⟩
      · exact hreplace _ a matched hsome hmatched
    obtain ⟨m₀, htext₀, hover₀, hbase₀⟩ := hhead
    refine ⟨m₀ ++ m, ?_, Markup.over_append hover₀ hover, ?_⟩
    · rw [Markup.toText_append, htext₀, htext, pass_append_found hsome hne]
    · rw [Markup.base_append]
      exact hbase₀.append hbase

end Passes

/-- What segments become. -/
lemma exists_markup_of_segments {fallback : Brackets} (hopening : IsPlain fallback.opening)
    (hclosing : IsPlain fallback.closing) {segments : List Segment} {t : Text}
    (hover : ∀ s ∈ segments, s.Over IsPlain) (hbase : (segments.flatMap Segment.base).Sublist t) :
    ∃ m : Markup, m.toText = fallback.markup segments ∧ m.Over IsPlain ∧ m.base.Sublist t :=
  ⟨.ofSegments fallback segments, Markup.toText_ofSegments _ _,
    Markup.over_ofSegments hopening hclosing hover, by rwa [Markup.base_ofSegments]⟩

variable {aligned : Bool} {fallback : Brackets}

namespace Form

variable {f : Form}

/-- An occurrence has at least six characters. -/
lemma six_le_length_write {o : Occurrence} (ho : o.IsInner) : 6 ≤ (f.write o).length := by
  have hword := List.length_pos_iff.2 ho.word_ne
  have hgloss := List.length_pos_iff.2 ho.gloss_ne
  simp only [write, middle, List.length_append, List.length_cons, List.length_nil]
  omega

lemma find_eq_none_of_length_lt {t : Text} (h : t.length < 6) : f.find t = none := by
  cases hfind : f.find t with
  | none => rfl
  | some r =>
      obtain ⟨o, matched⟩ := r
      obtain ⟨_, ho, rest, rfl⟩ := find_eq_some hfind
      have hlong := six_le_length_write (f := f) ho
      rw [List.length_append] at h
      omega

/-- No occurrence touches a tag. -/
lemma find_tag_eq_none (hf : ∀ c ∈ f.marks, IsPlain c) {g : Text} (hg : IsTag g) {x : Text}
    (hx : x ≠ []) (hxg : x <:+ g) (t : Text) : f.find (x ++ t) = none := by
  obtain ⟨name, rfl, hlength, _⟩ := hg.eq
  have hopening : IsPlain f.main.opening := hf _ (by simp [marks])
  have hend : '>' ∉ f.marks := fun h => (hf _ h).2 rfl
  rcases List.suffix_cons_iff.1 hxg with rfl | hxg
  · exact find_cons_of_ne hopening.1.symm
  rcases List.suffix_concat_iff.1 hxg with rfl | ⟨n, hn, hname⟩
  · exact absurd rfl hx
  subst hn
  cases n with
  | nil => exact find_cons_of_ne hopening.2.symm
  | cons c n =>
      rw [List.append_assoc, List.singleton_append, find_append_cons (by decide) hend (by simp)]
      have hshort := hname.length_le
      exact find_eq_none_of_length_lt (by omega)

/-- A tag stays. -/
lemma pass_tag {replace : Occurrence → Text} (hf : ∀ c ∈ f.marks, IsPlain c) {g : Text}
    (hg : IsTag g) (before : Option Char) (t : Text) :
    pass f.find replace before (g ++ t) = g ++ pass f.find replace none t := by
  rw [pass_append_plain before g fun x hx hxg => find_tag_eq_none hf hg hx hxg t]
  obtain ⟨name, rfl, _⟩ := hg.eq
  rw [pass_eq_pass_none (isSearch_find f)]
  rw [behind_of_ne_nil before (by simp), ← List.cons_append, List.getLast?_concat]
  decide

/-- **A pass of a form keeps nesting.** -/
theorem nests_apply (hf : ∀ c ∈ f.marks, IsPlain c) (hopening : IsPlain fallback.opening)
    (hclosing : IsPlain fallback.closing) : Nests (f.apply aligned fallback) where
  tag := by
    refine tagLocal_pass (isSearch_find f) ?_ fun g hg before t => pass_tag hf hg before t
    intro x t hx
    exact find_append_cons (by decide) (fun h => (hf _ h).1 rfl) hx
  plain := by
    refine pass_plain (isSearch_find f) ?_ none
    intro t o matched h hmatched
    obtain ⟨rfl, _, _⟩ := find_eq_some h
    refine exists_markup_of_segments hopening hclosing (o.over_segments aligned ?_ ?_) ?_
    · exact fun c hc => hmatched c (by simp [write, hc])
    · exact fun c hc => hmatched c (by simp [write, hc])
    · rw [Occurrence.flatMap_base_segments, ← List.append_nil (f.write o), write_append]
      exact (List.sublist_append_left _ _).trans (List.sublist_cons_self _ _)

end Form

namespace Brackets

variable {b : Brackets}

lemma separates_angle (hopening : IsPlain b.opening) (hclosing : IsPlain b.closing) :
    b.Separates '<' where
  logographic := not_isLogographic_of_ascii (by decide)
  annotation := not_isAnnotation_of_ascii (by decide)
  gloss := by
    simp [allowsInGloss, isAsciiWord, Text.isAsciiAlphanumeric, isSeparator, separators]
  opening := hopening.1.symm
  closing := hclosing.1.symm

/-- No word starts in a tag, except that the end of the tag may stand in front of one. -/
lemma pass_tag {g : Text} (hg : IsTag g) (before : Option Char) (t : Text) :
    pass b.detect (replacement aligned fallback) before (g ++ t)
      = g ++ pass b.detect (replacement aligned fallback) none t := by
  obtain ⟨name, rfl, _, hascii⟩ := hg.eq
  have hlog : ∀ c ∈ '<' :: (name ++ ['>']), ¬ isLogographic c :=
    fun c hc => not_isLogographic_of_ascii (hascii c hc).1
  have hname : ∀ x, x ≠ [] → x <:+ '<' :: name → b.detect (x ++ ('>' :: t)) = none := by
    intro x hx hxg
    obtain ⟨c, x, rfl⟩ := List.exists_cons_of_ne_nil hx
    have hmem : ∀ d ∈ c :: x ++ ['>'], d ∈ '<' :: (name ++ ['>']) := by
      intro d hd
      rcases List.mem_append.1 hd with hd | hd
      · exact List.mem_append_left ['>'] (hxg.subset hd)
      · exact List.mem_cons_of_mem _ (List.mem_append_right _ hd)
    refine detect_cons_eq_none (hlog c (hmem c (by simp))) ?_
    intro e he
    cases x with
    | nil =>
        obtain rfl : '>' = e := by simpa using he
        exact hlog _ (hmem _ (by simp))
    | cons d x =>
        obtain rfl : d = e := by simpa using he
        exact hlog _ (hmem _ (by simp))
  have hbefore : behind before ('<' :: name) ≠ some escapeChar :=
    behind_ne_escape_of_ne_nil before (by simp)
      fun hmem => (hascii _ (List.mem_append_left ['>'] hmem)).2 rfl
  calc pass b.detect (replacement aligned fallback) before ('<' :: (name ++ ['>']) ++ t)
      = pass b.detect (replacement aligned fallback) before ('<' :: name ++ '>' :: t) := by
        simp
    _ = '<' :: name ++ '>' :: pass b.detect (replacement aligned fallback) (some '>') t := by
        rw [pass_append_plain before _ hname,
          pass_cons_of_not_logographic hbefore (hlog '>' (by simp))]
    _ = '<' :: (name ++ ['>']) ++ pass b.detect (replacement aligned fallback) none t := by
        rw [pass_eq_pass_none (isSearch_detect b) (by decide)]
        simp

/-- **A pass of a pair keeps nesting.** -/
theorem nests_apply (hb : IsPlain b.opening ∧ IsPlain b.closing)
    (hopening : IsPlain fallback.opening) (hclosing : IsPlain fallback.closing) :
    Nests (b.apply aligned fallback) where
  tag := by
    refine tagLocal_pass (isSearch_detect b) ?_ fun g hg before t => pass_tag hg before t
    intro x t hx
    exact detect_append_cons (separates_angle hb.1 hb.2) hx
  plain := by
    refine pass_plain (isSearch_detect b) ?_ none
    intro t d matched h hmatched
    obtain ⟨rfl, _, _⟩ := detect_eq_some h
    have hpart : ∀ part, part ⊆ b.write d → ∀ c ∈ part, IsPlain c :=
      fun part hpart c hc => hmatched c (hpart hc)
    obtain ⟨m, htext, hover, hbase⟩ :=
      exists_markup_of_segments (t := d.base ++ d.suffix) hopening hclosing
        (d.over_segments aligned (hpart _ (by intro c hc; simp [write, hc]))
          (hpart _ (by intro c hc; simp [write, hc])) (hpart _ (by intro c hc; simp [write, hc])))
        (by rw [Detection.flatMap_base_segments])
    refine ⟨.text d.boundary ++ m, ?_, Markup.over_append ?_ hover, ?_⟩
    · rw [Markup.toText_append, htext]
      rfl
    · exact hpart _ (by intro c hc; simp [write, hc])
    · rw [Markup.base_append, ← List.append_nil (b.write d), write_append,
        ← List.append_assoc d.base]
      exact (List.Sublist.refl _).append (hbase.trans (List.sublist_append_left _ _))

end Brackets

/-- **Resolving escapes keeps nesting.** -/
theorem nests_unescape (hopening : IsPlain fallback.opening) (hclosing : IsPlain fallback.closing) :
    Nests (unescape fallback) where
  tag := by
    intro g hg a t
    obtain ⟨name, rfl, _, hascii⟩ := hg.eq
    have hesc : escapeChar ∉ '<' :: (name ++ ['>']) := fun h => (hascii _ h).2 rfl
    rw [List.cons_append, unescape_append_cons hopening.1.symm hclosing.1.symm, ← List.cons_append,
      unescape_append_plain hesc]
  plain := by
    intro t ht
    have hsub := unescape_sublist fallback t
    exact ⟨.text (unescape fallback t), rfl, fun c hc => ht c (hsub.subset hc), hsub⟩

/-! ## Conversions -/

lemma isPlain_standard : ∀ c ∈ Form.standard.marks, IsPlain c := by
  simp [Form.standard, Form.marks, Form.middle, IsPlain]

lemma isPlain_lenticular :
    IsPlain Brackets.lenticular.opening ∧ IsPlain Brackets.lenticular.closing := by
  simp [Brackets.lenticular, IsPlain]

/-- A conversion without angle brackets in its options keeps nesting. -/
lemma Options.nested {o : Options} (hforms : ∀ c ∈ o.forms, IsPlain c)
    (hfallback : ∀ c ∈ o.fallbackBrackets, IsPlain c)
    (hpairs : ∀ c ∈ o.autoBracketSets, IsPlain c) {t : Text} (ht : ∀ c ∈ t, IsPlain c) :
    ∃ m : Markup, m.toText = o.render t ∧ m.Over IsPlain ∧ m.base.Sublist t := by
  obtain ⟨hopening, hclosing⟩ : IsPlain o.fallback.opening ∧ IsPlain o.fallback.closing :=
    Brackets.over_ofText hfallback isPlain_lenticular.1 isPlain_lenticular.2
  have hform : ∀ f ∈ o.activeForms, Nests (f.apply o.patternMatching o.fallback) := fun f hf =>
    Form.nests_apply (over_activeForms hforms isPlain_standard hf) hopening hclosing
  have hpair : ∀ b ∈ o.activePairs, Nests (b.apply o.patternMatching o.fallback) := fun b hb =>
    Brackets.nests_apply
      (over_activePairs hpairs isPlain_lenticular.1 isPlain_lenticular.2 hb) hopening hclosing
  have htext : (Markup.text t).Over IsPlain := ht
  obtain ⟨m₁, htext₁, hover₁, hbase₁⟩ := Nests.foldl hform htext
  obtain ⟨m₂, htext₂, hover₂, hbase₂⟩ := Nests.foldl hpair hover₁
  obtain ⟨m₃, htext₃, hover₃, hbase₃⟩ := (nests_unescape hopening hclosing).markup hover₂
  refine ⟨m₃, ?_, hover₃, hbase₃.trans (hbase₂.trans hbase₁)⟩
  rw [htext₃, htext₂, htext₁]
  rfl

/-- **Converted text is nested markup with nothing invented.**  Without angle brackets in text and
options, malformed ones included, every call on a shared engine returns the writing of exactly one
tree of `ruby`, `rp` and `rt` elements with no other angle bracket.  Without its `rp` and `rt`
elements and its `ruby` tags it is a part of the text. -/
theorem Engine.render_nested {e : Engine} (he : e.Reachable) (o : Options) (t : Text)
    (hforms : ∀ c ∈ o.forms, IsPlain c) (hfallback : ∀ c ∈ o.fallbackBrackets, IsPlain c)
    (hpairs : ∀ c ∈ o.autoBracketSets, IsPlain c) (ht : ∀ c ∈ t, IsPlain c) :
    ∃ m : Markup, m.toText = (e.render o t).1 ∧ m.Over IsPlain ∧ m.base.Sublist t ∧
      ∀ n : Markup, n.Over IsPlain → n.toText = (e.render o t).1 → n = m := by
  obtain ⟨m, htext, hover, hbase⟩ := Options.nested hforms hfallback hpairs ht
  rw [← he.render_eq] at htext
  refine ⟨m, htext, hover, hbase, ?_⟩
  intro n hn hntext
  exact Markup.toText_injective (hn.mono fun _ h => h.1) (hover.mono fun _ h => h.1)
    (hntext.trans htext.symm)

/-- A malformed form, and one made of letters that occur in tags and in the base of another one. -/
theorem Engine.render_nested_inside_base :
    ∃ (o : Options) (t : Text), o.forms = "broken|rb:y:tx".toList ∧
      t = "[r字bytじx]^(え)と明日【あす】".toList ∧
      (∀ c ∈ o.forms, IsPlain c) ∧ (∀ c ∈ t, IsPlain c) ∧
      ∃ m : Markup, m.toText = (fresh.render o t).1 ∧ m.Over IsPlain ∧ m.base.Sublist t ∧
        ∀ n : Markup, n.Over IsPlain → n.toText = (fresh.render o t).1 → n = m := by
  let o : Options := { Options.standard with forms := "broken|rb:y:tx".toList }
  have hforms : ∀ c ∈ o.forms, IsPlain c := by simp [o, IsPlain]
  have hfallback : ∀ c ∈ o.fallbackBrackets, IsPlain c := by
    simp [o, Options.standard, Options.defaultFallbackBrackets, IsPlain]
  have hpairs : ∀ c ∈ o.autoBracketSets, IsPlain c := by
    simp [o, Options.standard, Options.defaultAutoBracketSets, IsPlain]
  have htext : ∀ c ∈ "[r字bytじx]^(え)と明日【あす】".toList, IsPlain c := by simp [IsPlain]
  exact ⟨o, _, rfl, rfl, hforms, htext,
    render_nested Reachable.fresh o _ hforms hfallback hpairs htext⟩

end Furigana
