import Mathlib
import Furigana.Proofs.Untouched

/-!
# Nothing is left to convert

A pass goes over a text once, and what it writes is looked at by the passes behind it only.  Still
none of the forms and pairs finds anything in the result: words and glosses hold none of the glyphs
that an occurrence begins with, and every annotation begins and ends with a tag, which no occurrence
crosses.

* `IsNotation`, `Clear` — texts that are written in some way, and the texts that hold none of them;
* `IsNotation.clear_pass` — a pass leaves a text clear if it finds what was not clear before it;
* `Form.clear_apply`, `Brackets.clear_apply` — the passes make their own notation disappear, and
  bring up no other one;
* `clear_convert`, `Engine.render_render` — nothing is left, so the next conversion changes
  nothing.
-/

namespace Furigana

variable {p : Char → Prop} {W : Text → Prop} {t u w : Text} {c : Char}

/-! ## Texts that are clear of a notation -/

/-- None of the texts `W` stands anywhere in the text. -/
def Clear (W : Text → Prop) (t : Text) : Prop := ∀ w, W w → ¬ w <:+: t

/-- Texts of two characters at least and without `<`, beginning with a character of the class `p`,
which stands in no tag. -/
structure IsNotation (p : Char → Prop) (W : Text → Prop) : Prop where
  head : ∀ w, W w → ∃ c d v, w = c :: d :: v ∧ p c
  angle : ∀ w, W w → '<' ∉ w
  tag : ∀ g, IsTag g → ∀ c ∈ g, ¬ p c

/-- A segment whose base and gloss are clear.  Plain text can go on behind it, so no text of the
notation begins there. -/
def Segment.IsClear (p : Char → Prop) (W : Text → Prop) : Segment → Prop
  | .ruby base gloss => Clear W base ∧ Clear W gloss
  | .literal text => ∀ c ∈ text, ¬ p c

lemma Clear.of_part (h : Clear W t) (hut : u <:+: t) : Clear W u :=
  fun w hw hwu => h w hw (hwu.trans hut)

namespace IsNotation

section Text

variable (hW : IsNotation p W)

include hW

lemma clear_nil : Clear W [] := by
  intro w hw hpart
  obtain ⟨c, d, v, rfl, _⟩ := hW.head w hw
  exact absurd (List.infix_nil.1 hpart) (by simp)

lemma clear_singleton (c : Char) : Clear W [c] := by
  intro w hw hpart
  obtain ⟨e, d, v, rfl, _⟩ := hW.head w hw
  exact absurd hpart.length_le (by simp)

/-- Text in which nothing begins makes no difference to the text behind it. -/
lemma clear_append_of_head (hu : ∀ c ∈ u, ¬ p c) (ht : Clear W t) : Clear W (u ++ t) := by
  induction u with
  | nil => exact ht
  | cons c u ih =>
      intro w hw hpart
      rcases List.infix_cons_iff.1 hpart with hstart | hpart
      · obtain ⟨d, e, v, rfl, hd⟩ := hW.head w hw
        obtain ⟨rfl, _⟩ := List.cons_prefix_cons.1 hstart
        exact hu d (by simp) hd
      · exact ih (fun d hd => hu d (List.mem_cons_of_mem _ hd)) w hw hpart

lemma clear_of_head (hu : ∀ c ∈ u, ¬ p c) : Clear W u := by
  simpa using hW.clear_append_of_head hu hW.clear_nil

lemma clear_tag_append {g : Text} (hg : IsTag g) (ht : Clear W t) : Clear W (g ++ t) :=
  hW.clear_append_of_head (hW.tag g hg) ht

/-- Nothing crosses a tag. -/
lemma clear_append_angle (hu : Clear W u) (ht : Clear W ('<' :: t)) : Clear W (u ++ '<' :: t) := by
  induction u with
  | nil => exact ht
  | cons c u ih =>
      intro w hw hpart
      rcases List.infix_cons_iff.1 hpart with hstart | hpart
      · obtain ⟨z, hz⟩ : w <+: (c :: u) ++ '<' :: t := hstart
        obtain ⟨m, hm, _⟩ := exists_append_of_notMem (hW.angle w hw) hz
        exact hu w hw ⟨[], m, hm.symm⟩
      · exact ih (hu.of_part (List.suffix_cons c u).isInfix) w hw hpart

lemma clear_append_tag {g : Text} (hg : IsTag g) (hu : Clear W u) (ht : Clear W t) :
    Clear W (u ++ (g ++ t)) := by
  have htag := hW.clear_tag_append hg ht
  obtain ⟨name, rfl, _⟩ := hg.eq
  exact hW.clear_append_angle hu htag

lemma clear_ruby_append {base gloss : Text} (hbase : Clear W base) (hgloss : Clear W gloss)
    (b : Brackets) (ht : Clear W t) : Clear W (b.ruby base gloss ++ t) := by
  have hend := hW.clear_append_tag (isTag_closing .rp) (hW.clear_singleton b.closing)
    (hW.clear_tag_append (isTag_closing .ruby) ht)
  have hmiddle := hW.clear_append_tag (isTag_closing .rt) hgloss
    (hW.clear_tag_append (isTag_opening .rp) hend)
  have hstart := hW.clear_append_tag (isTag_closing .rp) (hW.clear_singleton b.opening)
    (hW.clear_tag_append (isTag_opening .rt) hmiddle)
  have hruby := hW.clear_tag_append (isTag_opening .ruby)
    (hW.clear_append_tag (isTag_opening .rp) hbase hstart)
  simpa [Brackets.ruby_eq] using hruby

/-- Markup of clear segments keeps what follows it clear. -/
lemma clear_markup_append {segments : List Segment} (h : ∀ s ∈ segments, s.IsClear p W)
    (b : Brackets) (ht : Clear W t) : Clear W (b.markup segments ++ t) := by
  induction segments with
  | nil => exact ht
  | cons s rest ih =>
      have hs := h s (by simp)
      have hrest := ih fun s hs => h s (List.mem_cons_of_mem _ hs)
      rw [Brackets.markup_cons, List.append_assoc]
      cases s with
      | ruby base gloss => exact hW.clear_ruby_append hs.1 hs.2 b hrest
      | literal u => exact hW.clear_append_of_head hs hrest

/-- A segment without the characters that the notation begins with is clear. -/
lemma isClear_of_over {s : Segment} (hs : s.Over (¬ p ·)) : s.IsClear p W := by
  cases s with
  | ruby base gloss => exact ⟨hW.clear_of_head hs.1, hW.clear_of_head hs.2⟩
  | literal u => exact hs

end Text

/-- **What a pass leaves is clear** if every replacement keeps what follows it clear, and if the pass
finds something wherever the text was not clear.  What begins at a character that stays was there
before, since it cannot reach into a replacement. -/
theorem clear_pass (hW : IsNotation p W) {α : Type} {find : Text → Option (α × Text)}
    {replace : α → Text} (hfind : IsSearch find)
    (hreplace : ∀ x a matched, find x = some (a, matched) →
      ∃ v y, v <+: matched ∧ replace a = v ++ '<' :: y)
    {before : Option Char} (hbefore : before ≠ some escapeChar) (ht : escapeChar ∉ t)
    (hclear : ∀ x a matched, x <:+ t → find x = some (a, matched) →
      ∀ u, Clear W u → Clear W (replace a ++ u))
    (hfound : ∀ x w, x <:+ t → W w → w <+: x → find x ≠ none) :
    Clear W (pass find replace before t) := by
  let motive (before : Option Char) (t : Text) : Prop :=
    before ≠ some escapeChar → escapeChar ∉ t →
    (∀ x a matched, x <:+ t → find x = some (a, matched) →
      ∀ u, Clear W u → Clear W (replace a ++ u)) →
    (∀ x w, x <:+ t → W w → w <+: x → find x ≠ none) → Clear W (pass find replace before t)
  refine pass_induction hfind (motive := motive) ?_ ?_ ?_ before t hbefore ht hclear hfound
  · intro before _ _ _ _
    rw [pass_nil]
    exact hW.clear_nil
  · intro before c t hnone ih hbefore ht hclear hfound
    have hsub := List.suffix_cons c t
    have hc : some c ≠ some escapeChar := by
      rintro ⟨rfl⟩
      exact ht (by simp)
    have hrest := ih hc (fun h => ht (List.mem_cons_of_mem _ h))
      (fun x a matched hx => hclear x a matched (hx.trans hsub))
      (fun x w hx => hfound x w (hx.trans hsub))
    rw [pass_cons hnone]
    intro w hw hpart
    rcases List.infix_cons_iff.1 hpart with hstart | hpart
    · rw [← pass_cons hnone before] at hstart
      exact hfound _ w List.suffix_rfl hw
        (prefix_of_prefix_pass hfind hreplace (hW.angle w hw) hstart) hnone
    · exact hrest w hw hpart
  · intro before matched t a hsome hne ih hbefore ht hclear hfound
    have hsub := List.suffix_append matched t
    rw [List.mem_append, not_or] at ht
    have hfree : isEscaped before matched = false := by simp [isEscaped, ht.1, hbefore]
    rw [pass_append_found hsome hne, hfree]
    exact hclear _ a matched List.suffix_rfl hsome _
      (ih (behind_ne_escape hbefore ht.1) ht.2
        (fun x a matched hx => hclear x a matched (hx.trans hsub))
        (fun x w hx => hfound x w (hx.trans hsub)))

end IsNotation

variable {aligned : Bool} {fallback : Brackets}

lemma tag_of_isTag {g : Text} (hg : IsTag g) : ∀ c ∈ g, isInner c ∨ c ∈ ['<', '/', '>'] := by
  obtain ⟨tag, rfl | rfl⟩ := hg <;> cases tag <;>
    simp [Tag.opening, Tag.closing, Tag.name, isInner, isAsciiWord, Text.isAsciiAlphanumeric]

lemma escape_notMem_toText {m : Markup} (hm : m.Over (· ≠ escapeChar)) : escapeChar ∉ m.toText := by
  refine fun hmem => Markup.over_toText hm ?_ _ hmem rfl
  intro tag c hc
  have htag : ∀ g, IsTag g → ∀ c ∈ g, c ≠ escapeChar := fun g hg c hc => by
    obtain ⟨_, _, _, hascii⟩ := hg.eq
    exact (hascii c hc).2
  rcases List.mem_append.1 hc with hc | hc
  · exact htag _ (isTag_opening tag) c hc
  · exact htag _ (isTag_closing tag) c hc

/-! ## The passes of forms -/

namespace Form

variable {f : Form}

/-- The texts that are written under the form. -/
def Writes (f : Form) (w : Text) : Prop := ∃ o : Occurrence, o.IsInner ∧ w = f.write o

/-- A form whose opening glyph stands in no word, no gloss and no tag, and that is written without
`<`. -/
structure IsDistinct (f : Form) : Prop where
  wordy : ¬ IsWordy f.main.opening
  tag : f.main.opening ∉ ['<', '/', '>']
  angle : '<' ∉ f.marks

lemma IsDistinct.isNotation (hf : f.IsDistinct) : IsNotation (· = f.main.opening) f.Writes where
  head := by
    rintro w ⟨o, ho, rfl⟩
    obtain ⟨d, word, hword⟩ := List.exists_cons_of_ne_nil ho.word_ne
    exact ⟨f.main.opening, d, _, by rw [write, hword]; rfl, rfl⟩
  angle := by
    rintro w ⟨o, ho, rfl⟩
    exact notMem_write (by decide) hf.angle ho
  tag := by
    rintro g hg c hc rfl
    exact (tag_of_isTag hg _ hc).elim (fun h => hf.wordy (Or.inl h)) hf.tag

lemma find_ne_none_of_writes (hw : f.Writes w) (h : w <+: t) : f.find t ≠ none := by
  obtain ⟨o, ho, rfl⟩ := hw
  obtain ⟨z, rfl⟩ := h
  exact find_write_ne_none ho

/-- Nothing is found where nothing is written. -/
lemma find_eq_none_of_clear (h : Clear f.Writes t) {x : Text} (hx : x <:+ t) : f.find x = none := by
  cases hfind : f.find x with
  | none => rfl
  | some r =>
      obtain ⟨o, matched⟩ := r
      obtain ⟨_, ho, rest, rfl⟩ := find_eq_some hfind
      exact absurd ((List.prefix_append _ rest).isInfix.trans hx.isInfix) (h _ ⟨o, ho, rfl⟩)

/-- **The pass of a form** leaves no occurrence of its own, and brings up no other notation that
begins with something that is not inner. -/
theorem clear_apply (hW : IsNotation p W) (hp : ∀ c, isInner c → ¬ p c) (ht : escapeChar ∉ t)
    (h : W = f.Writes ∨ Clear W t) : Clear W (f.apply aligned fallback t) := by
  refine hW.clear_pass (isSearch_find f) ?_ (by simp) ht ?_ ?_
  · intro x o matched _
    obtain ⟨y, hy⟩ := fallback.exists_markup_eq_cons (o.exists_ruby_segments aligned)
    exact ⟨[], y, List.prefix_append [] _, hy⟩
  · intro x o matched _ hfind u hu
    obtain ⟨_, ho, _⟩ := find_eq_some hfind
    have hover := o.over_segments aligned (p := (¬ p ·)) (fun c hc => hp c (ho.word c hc))
      fun c hc => hp c (ho.gloss c hc)
    exact hW.clear_markup_append (fun s hs => hW.isClear_of_over (hover s hs)) fallback hu
  · intro x w hx hw hstart
    rcases h with rfl | h
    · exact find_ne_none_of_writes hw hstart
    · exact absurd (hstart.isInfix.trans hx.isInfix) (h w hw)

lemma escape_notMem_apply
    (hfallback : fallback.opening ≠ escapeChar ∧ fallback.closing ≠ escapeChar)
    (ht : escapeChar ∉ t) : escapeChar ∉ f.apply aligned fallback t := by
  rw [← toText_tree]
  exact escape_notMem_toText (over_tree hfallback.1 hfallback.2 fun c hc heq => ht (heq ▸ hc))

end Form

/-! ## The passes of pairs -/

namespace Brackets

variable {b : Brackets} {d : Detection}

/-- The shortest texts that are detected: an ideograph, kana and the gloss. -/
def Writes (b : Brackets) (w : Text) : Prop :=
  ∃ c suffix gloss, w = c :: (suffix ++ b.opening :: (gloss ++ [b.closing])) ∧ isLogographic c ∧
    (∀ e ∈ suffix, isAnnotation e) ∧ gloss ≠ [] ∧ ∀ e ∈ gloss, b.allowsInGloss e

/-- A pair whose opening glyph stands in no word and no gloss, and that is written without `<`. -/
structure IsDistinct (b : Brackets) : Prop where
  logographic : ¬ isLogographic b.opening
  gloss : ¬ b.allowsInGloss b.opening
  angle : b.opening ≠ '<' ∧ b.closing ≠ '<'

lemma IsDistinct.isNotation (hb : b.IsDistinct) : IsNotation (isLogographic ·) b.Writes where
  head := by
    rintro w ⟨c, suffix, gloss, rfl, hc, _⟩
    obtain ⟨d, v, hv⟩ := List.exists_cons_of_ne_nil
      (show suffix ++ b.opening :: (gloss ++ [b.closing]) ≠ [] by simp)
    exact ⟨c, d, v, by rw [hv], hc⟩
  angle := by
    rintro w ⟨c, suffix, gloss, rfl, hc, hsuffix, _, hgloss⟩
    have hangle : isInner '<' = false ∧ isSeparator '<' = false := by decide
    have hword : '<' ∉ c :: suffix := by
      refine notMem_of_isWordy (fun e he => ?_) hangle
      rcases List.mem_cons.1 he with rfl | he
      · exact isWordy_of_isLogographic hc
      · exact isWordy_of_kana (hsuffix e he)
    have hreading : '<' ∉ gloss :=
      notMem_of_isWordy (fun e he => isWordy_of_allowsInGloss (hgloss e he)) hangle
    simp only [List.mem_cons, not_or] at hword
    simp [hword, hreading, hb.angle.1.symm, hb.angle.2.symm]
  tag := fun g hg c hc => by
    obtain ⟨_, _, _, hascii⟩ := hg.eq
    exact not_isLogographic_of_ascii (hascii c hc).1

lemma detect_ne_none_of_writes (hw : b.Writes w) (h : w <+: t) : b.detect t ≠ none := by
  obtain ⟨c, suffix, gloss, rfl, hc, hsuffix, hne, hgloss⟩ := hw
  obtain ⟨z, rfl⟩ := h
  exact detect_cons_ne_none hc ⟨suffix, gloss, z, by simp, hsuffix, hne, hgloss⟩

lemma clear_iff_not_attaches : Clear b.Writes t ↔ ¬ b.Attaches t [] := by
  constructor
  · rintro h ⟨a, c, z, rfl, hc, suffix, gloss, rest, hz, hsuffix, hne, hgloss⟩
    rw [List.append_nil] at hz
    exact h _ ⟨c, suffix, gloss, rfl, hc, hsuffix, hne, hgloss⟩ ⟨a, rest, by simp [hz]⟩
  · rintro h w ⟨c, suffix, gloss, rfl, hc, hsuffix, hne, hgloss⟩ ⟨a, rest, rfl⟩
    exact h ⟨a, c, suffix ++ b.opening :: (gloss ++ b.closing :: rest), by simp, hc, suffix, gloss,
      rest, by simp, hsuffix, hne, hgloss⟩

/-- Nothing is detected where nothing is written. -/
lemma detect_eq_none_of_clear (h : Clear b.Writes t) {x : Text} (hx : x <:+ t) :
    b.detect x = none := by
  cases hfind : b.detect x with
  | none => rfl
  | some r => exact absurd ((attaches_of_detect hfind).of_part hx.isInfix) (clear_iff_not_attaches.1 h)

/-- Base and gloss of a word are stretches of the text, and neither holds the opening glyph. -/
lemma clear_parts {rest : Text} (hb : b.IsDistinct) (hd : b.IsWord d) (ht : b.write d ++ rest <:+ t)
    (h : W = b.Writes ∨ Clear W t) : Clear W d.base ∧ Clear W d.gloss := by
  rcases h with rfl | h
  · have hbase : b.opening ∉ d.base := fun hmem => hb.logographic (hd.base _ hmem)
    have hgloss : b.opening ∉ d.gloss := fun hmem => hb.gloss (hd.gloss _ hmem)
    exact ⟨clear_iff_not_attaches.2 (not_attaches_of_notMem hbase),
      clear_iff_not_attaches.2 (not_attaches_of_notMem hgloss)⟩
  · have hbase : d.base <:+: b.write d ++ rest :=
      ⟨d.boundary, d.suffix ++ b.opening :: (d.gloss ++ b.closing :: rest), by simp [write]⟩
    have hgloss : d.gloss <:+: b.write d ++ rest :=
      ⟨d.boundary ++ d.base ++ d.suffix ++ [b.opening], b.closing :: rest, by simp [write]⟩
    exact ⟨h.of_part (hbase.trans ht.isInfix), h.of_part (hgloss.trans ht.isInfix)⟩

/-- What replaces a word starts with a tag behind the boundary. -/
lemma exists_replacement_eq (aligned : Bool) (fallback : Brackets) (hd : b.IsWord d) :
    ∃ y, replacement aligned fallback d = d.boundary ++ '<' :: y := by
  obtain ⟨y, hy⟩ :=
    fallback.exists_markup_eq_cons (Detection.exists_ruby_segments aligned hd.base_ne)
  exact ⟨y, by rw [replacement, hy]⟩

/-- What replaces a word keeps what follows it clear. -/
lemma clear_replacement_append (hW : IsNotation p W) (hp : ∀ c, isAnnotation c → ¬ p c)
    (hd : b.IsWord d) (hboundary : Clear W d.boundary)
    (hparts : Clear W d.base ∧ Clear W d.gloss) (hu : Clear W u) :
    Clear W (replacement aligned fallback d ++ u) := by
  have hsegments : ∀ s ∈ d.segments aligned, s.IsClear p W := by
    intro s hs
    rcases d.mem_segments aligned hs with ⟨word, reading, rfl, hword, hreading⟩ | rfl
    · exact ⟨hparts.1.of_part hword, hparts.2.of_part hreading⟩
    · exact fun c hc => hp c (hd.suffix c hc)
  have hmarkup := hW.clear_markup_append hsegments fallback hu
  obtain ⟨y, hy⟩ := exists_replacement_eq aligned fallback hd
  rw [replacement, List.append_cancel_left_eq] at hy
  rw [replacement, List.append_assoc]
  rw [hy, List.cons_append] at hmarkup ⊢
  exact hW.clear_append_angle hboundary hmarkup

/-- **The pass of a pair** leaves no word of its own, and brings up no other notation that does not
begin with kana. -/
theorem clear_apply (hb : b.IsDistinct) (hW : IsNotation p W) (hp : ∀ c, isAnnotation c → ¬ p c)
    (ht : escapeChar ∉ t) (h : W = b.Writes ∨ Clear W t) : Clear W (b.apply aligned fallback t) := by
  rw [apply_eq_pass]
  refine hW.clear_pass (isSearch_detect b) ?_ (by simp) ht ?_ ?_
  · intro x d matched hfind
    obtain ⟨rfl, hd, _⟩ := detect_eq_some hfind
    obtain ⟨y, hy⟩ := exists_replacement_eq aligned fallback hd
    refine ⟨d.boundary, y, ?_, hy⟩
    simp only [write, List.append_assoc]
    exact List.prefix_append _ _
  · intro x d matched hx hfind u hu
    obtain ⟨rfl, hd, hboundary, rest, rfl⟩ := detect_eq_some hfind
    refine clear_replacement_append hW hp hd ?_ (clear_parts hb hd hx h) hu
    rcases hboundary with hnil | ⟨c, hc, _⟩
    · rw [hnil]
      exact hW.clear_nil
    · rw [hc]
      exact hW.clear_singleton c
  · intro x w hx hw hstart
    rcases h with rfl | h
    · exact detect_ne_none_of_writes hw hstart
    · exact absurd (hstart.isInfix.trans hx.isInfix) (h w hw)

lemma escape_notMem_apply
    (hfallback : fallback.opening ≠ escapeChar ∧ fallback.closing ≠ escapeChar)
    (ht : escapeChar ∉ t) : escapeChar ∉ b.apply aligned fallback t := by
  rw [← toText_tree]
  exact escape_notMem_toText (over_tree hfallback.1 hfallback.2 fun c hc heq => ht (heq ▸ hc))

end Brackets

/-! ## Conversions -/

/-- Steps that keep a property `P`, and that each bring about a property of their own which the other
ones keep. -/
lemma foldl_brings_about {α : Type} {s : α → Text → Text} {P : Text → Prop} {Q : α → Text → Prop}
    {steps : List α} (hP : ∀ a ∈ steps, ∀ t, P t → P (s a t))
    (hown : ∀ a ∈ steps, ∀ t, P t → Q a (s a t))
    (hkeep : ∀ a ∈ steps, ∀ r ∈ steps, ∀ t, P t → Q r t → Q r (s a t)) (ht : P t) :
    P (steps.foldl (fun t a => s a t) t) ∧
      ∀ a ∈ steps, Q a (steps.foldl (fun t a => s a t) t) := by
  induction steps using List.reverseRecOn with
  | nil => exact ⟨ht, by simp⟩
  | append_singleton steps a ih =>
      have hmem : ∀ r ∈ steps, r ∈ steps ++ [a] := fun r hr => List.mem_append_left _ hr
      have ha : a ∈ steps ++ [a] := by simp
      obtain ⟨hlast, hdone⟩ := ih (fun r hr => hP r (hmem r hr)) (fun r hr => hown r (hmem r hr))
        fun r hr s hs => hkeep r (hmem r hr) s (hmem s hs)
      rw [List.foldl_append, List.foldl_cons, List.foldl_nil]
      refine ⟨hP a ha _ hlast, fun r hr => ?_⟩
      rcases List.mem_append.1 hr with hr | hr
      · exact hkeep a ha r (hmem r hr) _ hlast (hdone r hr)
      · obtain rfl := List.mem_singleton.1 hr
        exact hown r ha _ hlast

section Convert

variable {forms : List Form} {pairs : List Brackets}

/-- **Nothing is left.**  What a conversion makes of a text without escapes is clear of every notation
that it converts. -/
theorem clear_convert (hforms : ∀ f ∈ forms, f.IsDistinct) (hpairs : ∀ b ∈ pairs, b.IsDistinct)
    (hfallback : fallback.opening ≠ escapeChar ∧ fallback.closing ≠ escapeChar)
    (ht : escapeChar ∉ t) :
    escapeChar ∉ convert forms pairs aligned fallback t ∧
      (∀ f ∈ forms, Clear f.Writes (convert forms pairs aligned fallback t)) ∧
      ∀ b ∈ pairs, Clear b.Writes (convert forms pairs aligned fallback t) := by
  have hinner : ∀ f ∈ forms, ∀ c, isInner c → ¬ c = f.main.opening := by
    rintro f hf c hc rfl
    exact (hforms f hf).wordy (Or.inl hc)
  have hkana : ∀ f ∈ forms, ∀ c, isAnnotation c → ¬ c = f.main.opening := by
    rintro f hf c hc rfl
    exact (hforms f hf).wordy (isWordy_of_kana hc)
  have hlogographic : ∀ c, isAnnotation c → ¬ isLogographic c := fun _ hc =>
    not_isLogographic_of_isAnnotation hc
  obtain ⟨hesc₁, hclear₁⟩ := foldl_brings_about
    (s := fun f : Form => f.apply aligned fallback) (P := (escapeChar ∉ ·))
    (Q := fun f => Clear f.Writes)
    (fun f _ t ht => Form.escape_notMem_apply hfallback ht)
    (fun f hf t ht => Form.clear_apply (hforms f hf).isNotation (hinner f hf) ht (Or.inl rfl))
    (fun f hf r hr t ht h =>
      Form.clear_apply (hforms r hr).isNotation (hinner r hr) ht (Or.inr h)) ht
  -- the passes of the pairs keep what those of the forms have brought about
  obtain ⟨⟨hesc₂, hclear₂⟩, hclear₃⟩ := foldl_brings_about
    (s := fun b : Brackets => b.apply aligned fallback)
    (P := fun t => escapeChar ∉ t ∧ ∀ f ∈ forms, Clear f.Writes t)
    (Q := fun b => Clear b.Writes)
    (fun b hb t ht => ⟨Brackets.escape_notMem_apply hfallback ht.1, fun f hf =>
      Brackets.clear_apply (hpairs b hb) (hforms f hf).isNotation (hkana f hf) ht.1
        (Or.inr (ht.2 f hf))⟩)
    (fun b hb t ht =>
      Brackets.clear_apply (hpairs b hb) (hpairs b hb).isNotation hlogographic ht.1 (Or.inl rfl))
    (fun b hb r hr t ht h =>
      Brackets.clear_apply (hpairs b hb) (hpairs r hr).isNotation hlogographic ht.1 (Or.inr h))
    ⟨hesc₁, hclear₁⟩
  rw [convert, unescape_eq_self hesc₂]
  exact ⟨hesc₂, hclear₂, hclear₃⟩

end Convert

namespace Options

variable {o : Options}

/-- The default forms, pairs and fallback brackets are distinct. -/
lemma isDistinct_of_default (hforms : o.forms = defaultForms)
    (hfallback : o.fallbackBrackets = defaultFallbackBrackets)
    (hpairs : o.autoBracketSets = defaultAutoBracketSets) :
    (∀ f ∈ o.activeForms, f.IsDistinct) ∧ (∀ b ∈ o.activePairs, b.IsDistinct) ∧
      o.fallback.opening ≠ escapeChar ∧ o.fallback.closing ≠ escapeChar := by
  refine ⟨fun f hf => ?_, fun b hb => ?_, ?_⟩
  · rw [activeForms, hforms, compileList_defaultForms] at hf
    have hf : f = .standard ∨ f = .braced := by
      split_ifs at hf <;> simp_all
    obtain ⟨hmain, _, _, hmarks⟩ := Form.standard_marks hf
    refine ⟨?_, ?_, fun h => (hmarks _ h).2.2.2.1 rfl⟩
    · rw [hmain]
      exact fun h => h.elim (by decide) (by decide)
    · rw [hmain]
      decide
  · rw [activePairs, hpairs, compileList_defaultAutoBracketSets] at hb
    have hb : b = .lenticular ∨ b = .braces := by
      split_ifs at hb <;> simp_all
    obtain ⟨_, _, _, hopening, hclosing⟩ := Brackets.standard_glyphs hb
    refine ⟨Brackets.not_isLogographic_opening hb, ?_, hopening.1, hclosing.1⟩
    rcases hb with rfl | rfl <;> decide
  · rw [fallback, hfallback]
    decide

end Options

/-- **The second conversion changes nothing.**  With the default forms, pairs and fallback brackets, no
form and no pair that a call applies finds anything in what it returns for a text without escapes. -/
theorem Engine.render_render {e e' : Engine} (he : e.Reachable) (he' : e'.Reachable) {o : Options}
    (hforms : o.forms = Options.defaultForms)
    (hfallback : o.fallbackBrackets = Options.defaultFallbackBrackets)
    (hpairs : o.autoBracketSets = Options.defaultAutoBracketSets) (ht : escapeChar ∉ t) :
    (e'.render o (e.render o t).1).1 = (e.render o t).1 ∧ o.FindsNothing (e.render o t).1 := by
  obtain ⟨hform, hpair, hglyphs⟩ := Options.isDistinct_of_default hforms hfallback hpairs
  obtain ⟨hesc, hclear, hclear'⟩ := clear_convert hform hpair hglyphs ht
  have hnothing : o.FindsNothing (o.render t) :=
    { forms := fun f hf _ hx => Form.find_eq_none_of_clear (hclear f hf) hx
      pairs := fun b hb _ hx => Brackets.detect_eq_none_of_clear (hclear' b hb) hx }
  rw [he.render_eq, he'.render_eq]
  exact ⟨hnothing.render_eq_self hesc, hnothing⟩

/-- A gloss that attaches to what a form left without one. -/
theorem Engine.render_render_behind_form :
    ∃ (o : Options) (t out : Text), o = .standard ∧ t = "[食べ物]^(たべ)【もの】".toList ∧
      out = Brackets.lenticular.markup
        [.ruby ['食'] ['た'], .literal ['べ'], .ruby ['物'] ['も', 'の']] ∧
      escapeChar ∉ t ∧ (fresh.render o t).1 = out ∧ ((fresh.render o t).2.render o out).1 = out ∧
      o.FindsNothing out := by
  have ht : escapeChar ∉ "[食べ物]^(たべ)【もの】".toList := by decide
  obtain ⟨hsame, hnothing⟩ :=
    render_render (o := .standard) .fresh (.render .fresh .standard _) rfl rfl rfl ht
  have hout : (fresh.render .standard "[食べ物]^(たべ)【もの】".toList).1 = Brackets.lenticular.markup
      [.ruby ['食'] ['た'], .literal ['べ'], .ruby ['物'] ['も', 'の']] := by
    decide +kernel
  rw [hout] at hsame hnothing
  exact ⟨_, _, _, rfl, rfl, rfl, ht, hout, hsame, hnothing⟩

end Furigana
