import Mathlib
import Furigana.Proofs.Markdown.Annotation

/-!
# Texts of a document cannot inject markup

A run of texts may hold anything, HTML and backslashes included.  It is escaped before the conversion,
so that the conversion works on text without angle brackets and `Options.nested` tells what it
writes.  Behind the conversion every backslash in front of ASCII punctuation is dropped, and a tag
begins with such punctuation.

* `exists_dropEscapes_append` — dropping backslashes does not reach into what follows a text;
* `exists_markup_dropEscapes` — so it drops characters of the texts of a tree, and nothing else;
* `annotateRun_nested` — what becomes of a run;
* `annotate_run_nested` — the same in a document.
-/

namespace Furigana.Markdown

variable {o : Options} {e : Engine} {source : Array UInt8} {before after : List Sited}
  {run : List (Text × Span)} {p : Char → Prop} {t : Text}

/-! ## Dropping backslashes in markup -/

/-- A backslash at the end of a text may be dropped for the sake of what follows, which stays as it
is unless it begins with a backslash itself. -/
lemma exists_dropEscapes_append (u : Text) (ht : ∀ c ∈ t.head?, c ≠ escapeChar) :
    ∃ v, v.Sublist u ∧ dropEscapes (u ++ t) = v ++ dropEscapes t := by
  fun_induction dropEscapes u with
  | case1 => exact ⟨[], List.Sublist.refl _, rfl⟩
  | case2 c =>
      by_cases hc : c = escapeChar
      · subst hc
        cases t with
        | nil => exact ⟨[escapeChar], List.Sublist.refl _, rfl⟩
        | cons d t =>
            have hd : d ≠ escapeChar := ht d rfl
            by_cases hpunctuation : Text.isAsciiPunctuation d
            · refine ⟨[], List.nil_sublist _, ?_⟩
              rw [List.singleton_append, dropEscapes_escape_cons hpunctuation,
                dropEscapes_cons_of_ne hd, List.nil_append]
            · exact ⟨[escapeChar], List.Sublist.refl _,
                dropEscapes_escape_cons_of_not hpunctuation t⟩
      · exact ⟨[c], List.Sublist.refl _, dropEscapes_cons_of_ne hc t⟩
  | case3 c d u h ih =>
      obtain ⟨v, hv, heq⟩ := ih
      refine ⟨d :: v, (hv.cons_cons d).trans (List.sublist_cons_self c _), ?_⟩
      rw [List.cons_append, List.cons_append, dropEscapes, if_pos h, heq, List.cons_append]
  | case4 c d u h ih =>
      obtain ⟨v, hv, heq⟩ := ih
      refine ⟨c :: v, hv.cons_cons c, ?_⟩
      rw [List.cons_append, List.cons_append, dropEscapes, if_neg h, ← List.cons_append, heq,
        List.cons_append]

/-- Text in front of a tag loses backslashes and the tag stays. -/
lemma exists_dropEscapes_append_tag {g : Text} (hg : IsTag g) (u t : Text) :
    ∃ v, v.Sublist u ∧ dropEscapes (u ++ (g ++ t)) = v ++ (g ++ dropEscapes t) := by
  obtain ⟨name, rfl, _, hascii⟩ := hg.eq
  have hesc : escapeChar ∉ '<' :: (name ++ ['>']) := fun hmem => (hascii _ hmem).2 rfl
  obtain ⟨v, hv, heq⟩ :=
    exists_dropEscapes_append (t := '<' :: (name ++ ['>']) ++ t) u (by simp [escapeChar])
  exact ⟨v, hv, by rw [heq, dropEscapes_append_plain hesc]⟩

/-- **Dropping backslashes keeps markup.**  The tree that is left has the same elements, and its
texts have lost characters only. -/
theorem exists_markup_dropEscapes {m : Markup} (hm : m.Over p)
    (ht : ∀ c ∈ t.head?, c ≠ escapeChar) :
    ∃ m' : Markup, m'.Over p ∧ m'.base.Sublist m.base ∧
      dropEscapes (m.toText ++ t) = m'.toText ++ dropEscapes t := by
  induction m generalizing t with
  | text u =>
      obtain ⟨v, hv, heq⟩ := exists_dropEscapes_append u ht
      exact ⟨.text v, fun c hc => hm c (hv.subset hc), hv, heq⟩
  | element lead tag content rest ihc ihr =>
      obtain ⟨rest', hoverr, hbaser, heqr⟩ := ihr hm.2.2 ht
      have hclosing : ∀ c ∈ (tag.closing ++ (rest.toText ++ t)).head?, c ≠ escapeChar := by
        simp [Tag.closing, escapeChar]
      obtain ⟨content', hoverc, hbasec, heqc⟩ := ihc hm.2.1 hclosing
      obtain ⟨lead', hlead, heq⟩ := exists_dropEscapes_append_tag (isTag_opening tag) lead
        (content.toText ++ (tag.closing ++ (rest.toText ++ t)))
      obtain ⟨v, hv, heqv⟩ := exists_dropEscapes_append_tag (isTag_closing tag) [] (rest.toText ++ t)
      obtain rfl := List.sublist_nil.1 hv
      refine ⟨.element lead' tag content' rest', ⟨fun c hc => hm.1 c (hlead.subset hc), hoverc,
        hoverr⟩, ?_, ?_⟩
      · refine hlead.append (List.Sublist.append ?_ hbaser)
        split_ifs
        · exact hbasec
        · exact List.Sublist.refl _
      · rw [List.nil_append, List.nil_append] at heqv
        simp only [Markup.toText, List.append_assoc]
        rw [heq, heqc, heqv, heqr]

/-! ## Runs -/

lemma isPlain_escapeHtml (t : Text) : ∀ c ∈ Text.escapeHtml t, IsPlain c :=
  isPlain_of_notMem (Text.notMem_escapeHtml (by decide) (by decide) t)
    (Text.notMem_escapeHtml (by decide) (by decide) t)

/-- **What becomes of a run**: its text, or nested markup with no other angle bracket.  Without its
`rp` and `rt` elements and its `ruby` tags the markup is a part of the escaped text. -/
theorem annotateRun_nested (he : e.Reachable) (hforms : ∀ c ∈ o.forms, IsPlain c)
    (hfallback : ∀ c ∈ o.fallbackBrackets, IsPlain c)
    (hpairs : ∀ c ∈ o.autoBracketSets, IsPlain c) (source : Array UInt8)
    (run : List (Text × Span)) :
    (annotateRun source o e run).1 = .text (plainText run) ∨
      ∃ m : Markup, (annotateRun source o e run).1 = .inlineHtml m.toText ∧ m.Over IsPlain ∧
        m.base.Sublist (withEscapes source none run).escapeHtml := by
  obtain ⟨m, htext, hover, hbase⟩ :=
    o.nested hforms hfallback hpairs (isPlain_escapeHtml (withEscapes source none run))
  obtain ⟨m', hover', hbase', heq⟩ := exists_markup_dropEscapes (t := []) hover (by simp)
  rw [List.append_nil, htext, dropEscapes, List.append_nil] at heq
  rw [(annotateRun_of_reachable he source o run).1]
  split_ifs
  · exact Or.inl rfl
  · exact Or.inr ⟨m', by rw [heq], hover', hbase'.trans hbase⟩

/-! ## Documents -/

/-- **Texts cannot inject markup.**  Let the options be written without angle brackets, malformed
ones included.  Then one event replaces a run of texts outside code and images, which cannot be made
longer on either side.  It is the text of the run, or inline HTML that is the writing of exactly one
tree of `ruby`, `rp` and `rt` elements over text without angle brackets; what is left of the tree
without its `rp` and `rt` elements and its `ruby` tags is a part of the run escaped for HTML. -/
theorem annotate_run_nested (he : e.Reachable) (hforms : ∀ c ∈ o.forms, IsPlain c)
    (hfallback : ∀ c ∈ o.fallbackBrackets, IsPlain c)
    (hpairs : ∀ c ∈ o.autoBracketSets, IsPlain c) (source : Text) (hne : run ≠ [])
    (hbefore : EndsRun before) (hafter : ∀ next ∈ after.head?, ¬ next.1.IsText)
    (hdepth : (Depth.zero.behind before).converts) :
    ∃ event,
      (annotate source o e (before ++ (textEvents run ++ after))).1
        = (annotate source o e before).1 ++ event ::
          (annotateFrom source.utf8.toArray o e (Depth.zero.behind before) after).1 ∧
      (event = .text (plainText run) ∨
        ∃ m : Markup, event = .inlineHtml m.toText ∧ m.Over IsPlain ∧
          m.base.Sublist (withEscapes source.utf8.toArray none run).escapeHtml ∧
          ∀ n : Markup, n.Over IsPlain → n.toText = m.toText → n = m) := by
  obtain ⟨front, hfront, hevents⟩ := annotate_run he o source hne hbefore hafter hdepth
  refine ⟨_, hevents, ?_⟩
  refine (annotateRun_nested hfront hforms hfallback hpairs _ run).imp_right ?_
  rintro ⟨m, hevent, hover, hbase⟩
  refine ⟨m, hevent, hover, hbase, fun n hn heq => ?_⟩
  exact Markup.toText_injective (hn.mono fun _ h => h.1) (hover.mono fun _ h => h.1) heq

/-- An escaped angle bracket, and a fallback bracket that is a backslash: it stands directly before a
tag and is dropped. -/
theorem annotate_run_nested_before_tag :
    ∃ (o : Options) (source : Text) (run : List (Text × Span)) (m : Markup),
      o.fallbackBrackets = ['\\', 'r'] ∧ source = "\\<b>[字]^(じ)".toList ∧
      plainText run = "<b>[字]^(じ)".toList ∧
      parse source
        = [(.enter .paragraph, ⟨0, 0⟩)] ++ (textEvents run ++ [(.leave .paragraph, ⟨0, 0⟩)]) ∧
      (∀ c ∈ o.forms, IsPlain c) ∧ (∀ c ∈ o.fallbackBrackets, IsPlain c) ∧
      (∀ c ∈ o.autoBracketSets, IsPlain c) ∧
      (annotate source o .fresh (parse source)).1
        = [.enter .paragraph, .inlineHtml m.toText, .leave .paragraph] ∧
      m.toText = "&lt;b&gt;<ruby>字<rp></rp><rt>じ</rt><rp>r</rp></ruby>".toList ∧
      m.Over IsPlain ∧ m.base.Sublist (withEscapes source.utf8.toArray none run).escapeHtml ∧
      ∀ n : Markup, n.Over IsPlain → n.toText = m.toText → n = m := by
  let o : Options := { Options.standard with fallbackBrackets := ['\\', 'r'] }
  let source : Text := "\\<b>[字]^(じ)".toList
  let run : List (Text × Span) := [(['<', 'b', '>'], ⟨1, 4⟩), (['['], ⟨4, 5⟩), (['字'], ⟨5, 8⟩),
    ([']'], ⟨8, 9⟩), (['^', '(', 'じ', ')'], ⟨9, 15⟩)]
  let paragraph : List Sited := [(.enter .paragraph, ⟨0, 0⟩)]
  have hforms : ∀ c ∈ o.forms, IsPlain c := isPlain_of_notMem (by decide) (by decide)
  have hfallback : ∀ c ∈ o.fallbackBrackets, IsPlain c := isPlain_of_notMem (by decide) (by decide)
  have hpairs : ∀ c ∈ o.autoBracketSets, IsPlain c := isPlain_of_notMem (by decide) (by decide)
  have hsource : parse source
      = paragraph ++ (textEvents run ++ [(.leave .paragraph, ⟨0, 0⟩)]) := by decide +kernel
  have hbefore : EndsRun paragraph := by
    rintro _ ⟨⟩ ⟨_, ⟨⟩⟩
  have hafter : ∀ next ∈ ([(.leave .paragraph, ⟨0, 0⟩)] : List Sited).head?, ¬ next.1.IsText := by
    rintro _ ⟨⟩ ⟨_, ⟨⟩⟩
  have hne : run ≠ [] := by simp [run]
  obtain ⟨event, hevents, hevent⟩ := annotate_run_nested Engine.Reachable.fresh hforms hfallback
    hpairs source hne hbefore hafter (by decide)
  have hannotate : (annotate source o .fresh (parse source)).1
      = [.enter .paragraph,
        .inlineHtml "&lt;b&gt;<ruby>字<rp></rp><rt>じ</rt><rp>r</rp></ruby>".toList,
        .leave .paragraph] := by decide +kernel
  have hfront : (annotate source o .fresh paragraph).1 = [.enter .paragraph] := by decide +kernel
  have hinline := hannotate
  rw [hsource, hevents, hfront] at hinline
  obtain rfl := (List.cons.inj (List.cons.inj hinline).2).1
  rcases hevent with hevent | ⟨m, hevent, hm⟩
  · exact absurd hevent (by simp)
  · have htext := Event.inlineHtml.inj hevent
    exact ⟨o, source, run, m, rfl, rfl, rfl, hsource, hforms, hfallback, hpairs,
      by rw [← htext]; exact hannotate, htext.symm, hm⟩

end Furigana.Markdown
