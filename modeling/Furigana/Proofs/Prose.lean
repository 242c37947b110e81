import Mathlib
import Furigana.Proofs.Engine
import Furigana.Proofs.Options
import Furigana.Proofs.Untouched

/-!
# Prose that shows as it is written

Prose without notation passes through a conversion as it is, however the options are written: an
occurrence would hold every mark of its form, or both glyphs of its pair and an ideograph.

An author who wants brackets and no annotation puts an escape in front of every fallback glyph.  If
the detected pairs open with a fallback glyph, no word is left: what leads to an opening glyph are
ideographs and kana, and now an escape stands there.  Resolving escapes takes off the ones that were
put there, and none of those that the author wrote.

* `Engine.render_without_notation` — prose without notation is given back;
* `escape` — the text with an escape in front of every glyph of a pair;
* `unescape_escape` — resolving escapes undoes it;
* `Form.escape_mem_of_find`, `Brackets.escape_mem_of_detect` — what is found in such a text holds an
  escape;
* `Engine.render_escape` — so a conversion gives the text back.
-/

namespace Furigana

variable {b b' : Brackets} {t u v x matched : Text} {c : Char}

/-! ## Prose without notation -/

/-- **Prose without notation passes as it is** through a call on a shared engine, whatever the options
are, the malformed entries in them being read as their defaults.  The prose holds no escape, it lacks
a glyph or a separator character of each form, and of each pair a glyph, unless it has no ideographs
at all. -/
theorem Engine.render_without_notation {e : Engine} (he : e.Reachable) {o : Options}
    (hesc : escapeChar ∉ t)
    (hforms : ∀ entry ∈ Form.entries o.forms, ∃ c ∈ (Form.ofText entry).marks, c ∉ t)
    (hpairs : ∀ entry ∈ Brackets.entries o.autoBracketSets,
      (Brackets.ofText entry).opening ∉ t ∨ (Brackets.ofText entry).closing ∉ t ∨
        ∀ c ∈ t, ¬ isLogographic c) :
    (e.render o t).1 = t := by
  have hnothing : o.FindsNothing t := by
    refine Options.findsNothing_of_lacks (fun f hf => ?_) fun b hb => ?_
    · obtain ⟨entry, hentry, rfl⟩ := Options.exists_entry_of_mem_activeForms hf
      exact hforms entry hentry
    · obtain ⟨entry, hentry, rfl⟩ := Options.exists_entry_of_mem_activePairs hb
      exact hpairs entry hentry
  rw [he.render_eq, hnothing.render_eq_self hesc]

/-- Entries that are read as the standard form and as lenticular brackets, and a text with all of
their marks but one each. -/
theorem Engine.render_without_notation_malformed :
    ∃ (o : Options) (t : Text), o.forms = "《》:・:〈〉|[]:".toList ∧
      o.autoBracketSets = "()|【".toList ∧ t = "[明日)^と《字》・〈【".toList ∧ escapeChar ∉ t ∧
      (∀ entry ∈ Form.entries o.forms, ∃ c ∈ (Form.ofText entry).marks, c ∉ t) ∧
      (∀ entry ∈ Brackets.entries o.autoBracketSets, (Brackets.ofText entry).opening ∉ t ∨
        (Brackets.ofText entry).closing ∉ t ∨ ∀ c ∈ t, ¬ isLogographic c) ∧
      (fresh.render o t).1 = t := by
  let o : Options := { Options.standard with
    forms := "《》:・:〈〉|[]:".toList
    autoBracketSets := "()|【".toList }
  let t : Text := "[明日)^と《字》・〈【".toList
  have hesc : escapeChar ∉ t := by decide
  have hforms : ∀ entry ∈ Form.entries o.forms, ∃ c ∈ (Form.ofText entry).marks, c ∉ t := by
    have hentries : Form.entries o.forms = ["《》:・:〈〉".toList, "[]:".toList] := rfl
    rw [hentries, List.forall_mem_cons, List.forall_mem_singleton]
    exact ⟨⟨'〉', by decide, by decide⟩, ⟨'(', by decide, by decide⟩⟩
  have hpairs : ∀ entry ∈ Brackets.entries o.autoBracketSets, (Brackets.ofText entry).opening ∉ t ∨
      (Brackets.ofText entry).closing ∉ t ∨ ∀ c ∈ t, ¬ isLogographic c := by
    have hentries : Brackets.entries o.autoBracketSets = ["()".toList, "【".toList] := rfl
    rw [hentries, List.forall_mem_cons, List.forall_mem_singleton]
    exact ⟨Or.inl (by decide), Or.inr (Or.inl (by decide))⟩
  exact ⟨o, t, rfl, rfl, rfl, hesc, hforms, hpairs, render_without_notation .fresh hesc hforms hpairs⟩

/-! ## Escapes in front of the fallback glyphs -/

/-- Whether a character is one of the two glyphs of a pair. -/
def Brackets.Has (b : Brackets) (c : Char) : Prop := c = b.opening ∨ c = b.closing

instance : Decidable (b.Has c) := inferInstanceAs (Decidable (c = b.opening ∨ c = b.closing))

/-- The text with an escape in front of every glyph of the pair. -/
def escape (b : Brackets) (t : Text) : Text :=
  t.flatMap fun c => if b.Has c then [escapeChar, c] else [c]

@[simp] lemma escape_nil (b : Brackets) : escape b [] = [] := rfl

lemma escape_cons_of_has (hc : b.Has c) (t : Text) :
    escape b (c :: t) = escapeChar :: c :: escape b t := by
  rw [escape, List.flatMap_cons, if_pos hc]
  rfl

lemma escape_cons_of_not_has (hc : ¬ b.Has c) (t : Text) : escape b (c :: t) = c :: escape b t := by
  rw [escape, List.flatMap_cons, if_neg hc]
  rfl

/-! ## Where the glyphs stand -/

/-- Nothing but escapes is added. -/
lemma mem_escape (hc : c ∈ escape b t) : c = escapeChar ∨ c ∈ t := by
  obtain ⟨d, hd, hmem⟩ := List.mem_flatMap.1 hc
  split_ifs at hmem
  · rcases List.mem_pair.1 hmem with rfl | rfl
    · exact Or.inl rfl
    · exact Or.inr hd
  · obtain rfl := List.mem_singleton.1 hmem
    exact Or.inr hd

/-- The text does not begin with a glyph. -/
lemma not_has_of_mem_head? (hesc : ¬ b.Has escapeChar) (hc : c ∈ (escape b t).head?) :
    ¬ b.Has c := by
  cases t with
  | nil => exact absurd hc (by simp)
  | cons d t =>
      by_cases hd : b.Has d
      · rw [escape_cons_of_has hd] at hc
        exact Option.mem_some.1 hc ▸ hesc
      · rw [escape_cons_of_not_has hd] at hc
        exact Option.mem_some.1 hc ▸ hd

/-- **An escape stands directly before every glyph.** -/
lemma getLast?_of_escape_eq (hesc : ¬ b.Has escapeChar) (hc : b.Has c)
    (h : escape b t = u ++ c :: v) : u.getLast? = some escapeChar := by
  induction t generalizing u with
  | nil => exact absurd h (by simp)
  | cons d t ih =>
      by_cases hd : b.Has d
      · have hne : c ∉ [escapeChar] := fun hmem => hesc (List.mem_singleton.1 hmem ▸ hc)
        rw [escape_cons_of_has hd] at h
        obtain ⟨u, rfl, hrest⟩ := exists_append_of_notMem (u := [escapeChar]) hne h
        cases u with
        | nil => rfl
        | cons e u =>
            exact List.mem_getLast?_cons (List.mem_getLast?_cons (ih (List.cons.inj hrest).2))
      · have hne : c ∉ [d] := fun hmem => hd (List.mem_singleton.1 hmem ▸ hc)
        rw [escape_cons_of_not_has hd] at h
        obtain ⟨u, rfl, hrest⟩ := exists_append_of_notMem (u := [d]) hne h
        exact List.mem_getLast?_cons (ih hrest)

/-- **Resolving escapes gives the text back**, with the escapes that it had itself. -/
theorem unescape_escape (hesc : ¬ b.Has escapeChar) (t : Text) : unescape b (escape b t) = t := by
  induction t with
  | nil => rfl
  | cons c t ih =>
      by_cases hc : b.Has c
      · have hne : c ≠ escapeChar := fun h => hesc (h ▸ hc)
        rw [escape_cons_of_has hc, unescape_escape_glyph hc, unescape_cons_of_ne hne, ih]
      rw [escape_cons_of_not_has hc]
      by_cases hne : c = escapeChar
      · -- an escape of the text itself: a glyph behind it has an escape of its own
        subst hne
        cases hrest : escape b t with
        | nil =>
            rw [hrest] at ih
            rw [← ih]
            rfl
        | cons d rest =>
            have hd : ¬ b.Has d := not_has_of_mem_head? hesc (by rw [hrest]; rfl)
            rw [Brackets.Has, not_or] at hd
            rw [unescape_escape_cons_of_ne hd.1 hd.2, ← hrest, ih]
      · rw [unescape_cons_of_ne hne, ih]

/-! ## What is found -/

/-- A form whose opening glyph the text does not hold finds something only at an escape. -/
lemma Form.escape_mem_of_find {f : Form} {o : Form.Occurrence} (hf : f.main.opening ∉ t)
    (hx : x <:+ escape b t) (hfind : f.find x = some (o, matched)) : escapeChar ∈ matched := by
  obtain ⟨rfl, _, rest, rfl⟩ := find_eq_some hfind
  have hopening : f.main.opening ∈ f.write o := by simp [write]
  rcases mem_escape (hx.mem (List.mem_append_left rest hopening)) with heq | hmem
  · exact heq ▸ hopening
  · exact absurd hmem hf

/-- A pair that opens with a glyph finds nothing without an escape in it, as one stands in front of
the opening glyph. -/
lemma Brackets.escape_mem_of_detect {d : Detection} (hesc : ¬ b'.Has escapeChar)
    (hb : b'.Has b.opening) (hx : x <:+ escape b' t) (hfind : b.detect x = some (d, matched)) :
    escapeChar ∈ matched := by
  obtain ⟨rfl, hd, _, rest, rfl⟩ := detect_eq_some hfind
  obtain ⟨front, hfront⟩ := hx
  have hsplit : escape b' t = (front ++ d.boundary) ++ (d.base ++ d.suffix)
      ++ b.opening :: (d.gloss ++ b.closing :: rest) := by
    rw [← hfront, write_append]
    simp
  have hlast := getLast?_of_escape_eq hesc hb hsplit
  have hword : d.base ++ d.suffix ≠ [] := by simp [hd.base_ne]
  rw [List.getLast?_append_of_ne_nil _ hword] at hlast
  have hmem := List.mem_of_getLast? hlast
  rw [List.mem_append] at hmem
  rw [write]
  simp only [List.mem_append]
  tauto

/-! ## Conversions -/

/-- **Prose that shows as it is written.**  Let every pair that the options detect open with a
fallback glyph, neither of which is the escape, and let a text hold the opening glyph of no form.
Then a call on a shared engine gives the text back if an escape is put in front of every fallback
glyph, whatever other escapes it holds. -/
theorem Engine.render_escape {e : Engine} (he : e.Reachable) {o : Options}
    (hesc : ¬ o.fallback.Has escapeChar) (hpairs : ∀ b ∈ o.activePairs, o.fallback.Has b.opening)
    (hforms : ∀ f ∈ o.activeForms, f.main.opening ∉ t) :
    (e.render o (escape o.fallback t)).1 = t := by
  have hform : ∀ f ∈ o.activeForms, f.apply o.patternMatching o.fallback (escape o.fallback t)
      = escape o.fallback t := fun f hf =>
    pass_eq_self (Form.isSearch_find f) none fun _ hx _ _ =>
      Form.escape_mem_of_find (hforms f hf) hx
  have hpair : ∀ b ∈ o.activePairs, b.apply o.patternMatching o.fallback (escape o.fallback t)
      = escape o.fallback t := fun b hb =>
    pass_eq_self (Brackets.isSearch_detect b) none fun _ hx _ _ =>
      Brackets.escape_mem_of_detect hesc (hpairs b hb) hx
  rw [he.render_eq, Options.render_of_apply_eq_self hform hpair, unescape_escape hesc]

/-- A fallback glyph that is an ideograph, and an escape of the author's own in front of the other
one.  Without further escapes the text is annotated. -/
theorem Engine.render_escape_ideograph :
    ∃ (o : Options) (t : Text), o.fallbackBrackets = "字】".toList ∧
      o.autoBracketSets = "字】|】】".toList ∧ t = "明日字あす】と\\】".toList ∧
      escape o.fallback t = "明日\\字あす\\】と\\\\】".toList ∧ ¬ o.fallback.Has escapeChar ∧
      (∀ b ∈ o.activePairs, o.fallback.Has b.opening) ∧
      (∀ f ∈ o.activeForms, f.main.opening ∉ t) ∧ (fresh.render o t).1 ≠ t ∧
      (fresh.render o (escape o.fallback t)).1 = t := by
  let o : Options := { Options.standard with
    fallbackBrackets := "字】".toList
    autoBracketSets := "字】|】】".toList }
  have hesc : ¬ o.fallback.Has escapeChar := by decide
  have hpairs : ∀ b ∈ o.activePairs, o.fallback.Has b.opening := by decide
  have hforms : ∀ f ∈ o.activeForms, f.main.opening ∉ "明日字あす】と\\】".toList := by decide
  exact ⟨o, _, rfl, rfl, rfl, by decide, hesc, hpairs, hforms, by decide +kernel,
    render_escape .fresh hesc hpairs hforms⟩

end Furigana
