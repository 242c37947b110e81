import Mathlib
import Furigana.Proofs.Engine
import Furigana.Proofs.Document
import Furigana.Proofs.Form.Grammar

/-!
# The order of independent forms

Forms are applied one after the other, each to what the one before left.  If they are written with
punctuation, and no opening glyph has another part in any of them, they do not get in each other's
way: what one of them writes holds nothing for the others, so all of them together make a single pass
that converts at every place what any of them finds there.  Two different forms never find something
at the same place, and so their order makes no difference.

* `Independent` — the condition on the forms;
* `findAny`, `Independent.findAny_eq_some_iff` — the search for any of them, whatever their order;
* `pass_markup_append`, `Independent.pass_escaped` — what a pass leaves alone;
* `Independent.pass_pass`, `Independent.foldl_apply` — two passes are one, and so are all passes;
* `Independent.compileList_writeList` — the forms are read from the options that they are joined in;
* `Engine.render_perm` — the order of the forms makes no difference to a conversion.
-/

namespace Furigana

namespace Text

variable {c : Char}

lemma not_isInner_of_isAsciiPunctuation (h : isAsciiPunctuation c) (hc : c ≠ '_') :
    ¬ isInner c := by
  simp only [isAsciiPunctuation, Bool.or_eq_true, Bool.and_eq_true, decide_eq_true_eq, Char.le_def,
    UInt32.le_iff_toNat_le] at h
  simp only [isInner, isAsciiWord, isAsciiAlphanumeric, Bool.or_eq_true, Bool.and_eq_true,
    decide_eq_true_eq, beq_iff_eq, hc, or_false, Char.le_def, Char.lt_def, UInt32.le_iff_toNat_le,
    UInt32.lt_iff_toNat_lt]
  simp only [Char.reduceVal, UInt32.reduceToNat] at h ⊢
  omega

end Text

namespace Form

variable {f g : Form} {forms : List Form} {o : Occurrence} {t : Text} {r : Occurrence × Text}

/-! ## Independent forms -/

/-- Forms that are written with punctuation, other than the marks that lists of forms, escapes and tags
are written with, and whose opening glyphs have no other part in any of them. -/
@[mk_iff] structure Independent (forms : List Form) : Prop where
  punctuation : ∀ f ∈ forms, ∀ c ∈ f.marks,
    Text.isAsciiPunctuation c ∧ c ∉ ['_', ':', '|', '\\', '<', '>']
  opening : ∀ f ∈ forms, ∀ g ∈ forms, f.main.opening ∉ g.middle ++ [g.gloss.closing]

namespace Independent

lemma of_subset (h : Independent forms) {forms' : List Form} (hsub : forms' ⊆ forms) :
    Independent forms' where
  punctuation f hf := h.punctuation f (hsub hf)
  opening f hf g hg := h.opening f (hsub hf) g (hsub hg)

lemma not_isInner (h : Independent forms) (hf : f ∈ forms) : ∀ c ∈ f.marks, ¬ isInner c := by
  intro c hc
  obtain ⟨hpunctuation, hne⟩ := h.punctuation f hf c hc
  exact Text.not_isInner_of_isAsciiPunctuation hpunctuation fun heq => hne (by simp [heq])

lemma escape_notMem (h : Independent forms) (hf : f ∈ forms) : escapeChar ∉ f.marks :=
  fun hc => (h.punctuation f hf _ hc).2 (by simp [escapeChar])

lemma isPlain (h : Independent forms) (hf : f ∈ forms) : ∀ c ∈ f.marks, IsPlain c := by
  intro c hc
  have hne := (h.punctuation f hf c hc).2
  exact ⟨fun heq => hne (by simp [heq]), fun heq => hne (by simp [heq])⟩

lemma opening_not_isInner (h : Independent forms) (hf : f ∈ forms) : ¬ isInner f.main.opening :=
  h.not_isInner hf _ (by simp [marks])

/-- An occurrence is found as it is written, whatever follows it. -/
lemma find_write (h : Independent forms) (hf : f ∈ forms) (ho : o.IsInner) (t : Text) :
    f.find (f.write o ++ t) = some (o, f.write o) := by
  have hadmits : f.Admits o :=
    { toIsInner := ho
      word_marks := fun c hc hmark => h.not_isInner hf c hmark (ho.word c hc)
      gloss_marks := fun c hc hmark => h.not_isInner hf c hmark (ho.gloss c hc) }
  exact find_write_of_not_isInner hadmits (h.not_isInner hf _ (by simp [marks]))

/-- No two forms find something at the same place. -/
lemma eq_of_find (h : Independent forms) (hf : f ∈ forms) (hg : g ∈ forms)
    {r' : Occurrence × Text} (hr : f.find t = some r) (hr' : g.find t = some r') : f = g := by
  obtain ⟨o, matched⟩ := r
  obtain ⟨o', matched'⟩ := r'
  obtain ⟨_, ho, rest, ht⟩ := find_eq_some hr
  obtain ⟨_, ho', rest', ht'⟩ := find_eq_some hr'
  exact (write_append_inj (h.not_isInner hf) (h.not_isInner hg) ho ho' (ht.symm.trans ht')).1

/-- Behind its first character an occurrence holds no opening glyph. -/
lemma opening_notMem (h : Independent forms) (hf : f ∈ forms) (hg : g ∈ forms) (ho : o.IsInner) :
    g.main.opening ∉ o.word ++ f.middle ++ o.gloss ++ [f.gloss.closing] := by
  have hword := notMem_of_isInner (h.opening_not_isInner hg) ho.word
  have hgloss := notMem_of_isInner (h.opening_not_isInner hg) ho.gloss
  have hmarks := h.opening g hg f hf
  simp only [List.mem_append, not_or] at hmarks ⊢
  exact ⟨⟨⟨hword, hmarks.1⟩, hgloss⟩, hmarks.2⟩

end Independent

/-! ## The search for any of the forms -/

/-- What the first of the forms that finds anything finds. -/
def findAny (forms : List Form) (t : Text) : Option (Occurrence × Text) :=
  forms.findSome? (·.find t)

lemma findAny_concat (forms : List Form) (g : Form) (t : Text) :
    findAny (forms ++ [g]) t = (findAny forms t).or (g.find t) := by
  rw [findAny, List.findSome?_append]
  cases hg : g.find t <;> simp [findAny, List.findSome?, hg]

lemma isSearch_findAny (forms : List Form) : IsSearch (findAny forms) := by
  intro t o matched h
  obtain ⟨f, _, hf⟩ := List.exists_of_findSome?_eq_some h
  exact isSearch_find f t o matched hf

lemma findAny_cons_of_ne {c : Char} (hc : ∀ f ∈ forms, c ≠ f.main.opening) :
    findAny forms (c :: t) = none :=
  List.findSome?_eq_none_iff.2 fun f hf => find_cons_of_ne (hc f hf)

/-- **What any of the forms finds** does not depend on their order. -/
theorem Independent.findAny_eq_some_iff (h : Independent forms) :
    findAny forms t = some r ↔ ∃ f ∈ forms, f.find t = some r := by
  constructor
  · exact List.exists_of_findSome?_eq_some
  · rintro ⟨f, hf, hr⟩
    cases hany : findAny forms t with
    | none => exact absurd (List.findSome?_eq_none_iff.1 hany f hf) (by simp [hr])
    | some r' =>
        obtain ⟨g, hg, hr'⟩ := List.exists_of_findSome?_eq_some hany
        obtain rfl := h.eq_of_find hf hg hr hr'
        exact hr'.symm.trans hr

lemma Independent.findAny_perm (h : Independent forms) {forms' : List Form}
    (hperm : forms.Perm forms') : findAny forms = findAny forms' := by
  have h' := h.of_subset hperm.symm.subset
  refine funext fun t => Option.ext fun r => ?_
  simp only [h.findAny_eq_some_iff, h'.findAny_eq_some_iff, hperm.mem_iff]

/-! ## What a pass leaves alone -/

section Pass

variable {replace : Occurrence → Text}

/-- A character between tags stays: an occurrence would reach into the tag behind it. -/
lemma pass_cons_tag (hf : ∀ c ∈ f.marks, IsPlain c) {tag : Text} (htag : IsTag tag) (c : Char)
    (before : Option Char) (t : Text) :
    pass f.find replace before (c :: (tag ++ t)) = c :: (tag ++ pass f.find replace none t) := by
  have hnone : f.find (c :: (tag ++ t)) = none := by
    obtain ⟨name, rfl, _⟩ := htag.eq
    have hsingle : f.find ([c] ++ '<' :: (name ++ ['>'] ++ t)) = f.find [c] :=
      find_append_cons (by decide) (fun h => (hf _ h).1 rfl) (by simp)
    exact hsingle.trans (find_eq_none_of_length_lt (by simp))
  rw [pass_cons hnone, pass_tag hf htag]

/-- Inner text stays. -/
lemma pass_inner_append (hopening : ¬ isInner f.main.opening) {before : Option Char}
    (hbefore : before ≠ some escapeChar) {u : Text} (hu : ∀ c ∈ u, isInner c) (t : Text) :
    pass f.find replace before (u ++ t) = u ++ pass f.find replace none t :=
  pass_append_of_notMem (notMem_of_isInner hopening hu)
    (behind_ne_escape hbefore (notMem_of_isInner not_isInner_escape hu)) t

/-- **Annotations stay**, whatever the fallback brackets are. -/
lemma pass_markup_append (hf : ∀ c ∈ f.marks, IsPlain c) (hopening : ¬ isInner f.main.opening)
    (fallback : Brackets) {segments : List Segment} (h : ∀ s ∈ segments, s.Over (isInner ·))
    {before : Option Char} (hbefore : before ≠ some escapeChar) (t : Text) :
    pass f.find replace before (fallback.markup segments ++ t)
      = fallback.markup segments ++ pass f.find replace none t := by
  induction segments generalizing before with
  | nil => exact pass_eq_pass_none (isSearch_find f) hbefore t
  | cons s rest ih =>
      have hs := h s (by simp)
      have hrest : pass f.find replace none (fallback.markup rest ++ t)
          = fallback.markup rest ++ pass f.find replace none t :=
        ih (fun s hs => h s (List.mem_cons_of_mem _ hs)) (by simp)
      rw [Brackets.markup_cons, List.append_assoc, List.append_assoc]
      cases s with
      | literal u => rw [Brackets.segment, pass_inner_append hopening hbefore hs, hrest]
      | ruby base gloss =>
          have hinner : ∀ u, (∀ c ∈ u, isInner c) → ∀ t,
              pass f.find replace none (u ++ t) = u ++ pass f.find replace none t :=
            fun u hu t => pass_inner_append hopening (by simp) hu t
          simp only [Brackets.segment, Brackets.ruby_eq, List.append_assoc, List.cons_append,
            List.nil_append, pass_tag hf (isTag_opening _), pass_tag hf (isTag_closing _),
            pass_cons_tag hf (isTag_closing _), hinner base hs.1, hinner gloss hs.2, hrest]

end Pass

/-! ## One pass for all forms -/

/-- What an occurrence is replaced with. -/
def Occurrence.replacement (aligned : Bool) (fallback : Brackets) (o : Occurrence) : Text :=
  fallback.markup (o.segments aligned)

section Passes

variable {aligned : Bool} {fallback : Brackets} {before : Option Char}

namespace Independent

/-- An escaped occurrence stays, under whichever of the forms it is written. -/
lemma pass_escaped (h : Independent forms) (hf : f ∈ forms) (hg : g ∈ forms) (ho : o.IsInner)
    {replace : Occurrence → Text} (hescaped : isEscaped before (f.write o) = true) (t : Text) :
    pass g.find replace before (f.write o ++ t) = f.write o ++ pass g.find replace none t := by
  have hesc := escape_notMem_write (h.escape_notMem hf) ho
  cases hfind : g.find (f.write o ++ t) with
  | none =>
      refine pass_write_append (isSearch_find g) hfind (fun c hc x => find_cons_of_ne ?_) hesc before
      rintro rfl
      exact h.opening_notMem hf hg ho hc
  | some r =>
      have hown := h.find_write hf ho t
      obtain rfl := h.eq_of_find hf hg hown hfind
      rw [pass_append_found hown (write_ne_nil f o), if_pos hescaped,
        pass_eq_pass_none (isSearch_find f)
          (behind_ne_escape_of_ne_nil before (write_ne_nil f o) hesc)]

/-- What is written under another form stays if the forms find nothing at it. -/
lemma pass_findAny_write (h : Independent (forms ++ [g])) (ho : o.IsInner)
    {replace : Occurrence → Text} (hany : findAny forms (g.write o ++ t) = none) :
    pass (findAny forms) replace before (g.write o ++ t)
      = g.write o ++ pass (findAny forms) replace none t := by
  have hg : g ∈ forms ++ [g] := by simp
  refine pass_write_append (isSearch_findAny forms) hany (fun c hc x => ?_)
    (escape_notMem_write (h.escape_notMem hg) ho) before
  refine findAny_cons_of_ne fun f hf => ?_
  rintro rfl
  exact h.opening_notMem hg (List.mem_append_left _ hf) ho hc

/-- The pass of the forms brings up no occurrence of another one: it would have no tag in it, so it
would stand in the text already. -/
lemma find_cons_pass_eq_none {c : Char} (h : Independent (forms ++ [g]))
    (hany : findAny forms (c :: t) = none) (hlast : g.find (c :: t) = none) :
    g.find (c :: pass (findAny forms) (Occurrence.replacement aligned fallback) (some c) t)
      = none := by
  have hg : g ∈ forms ++ [g] := by simp
  have hreplace : ∀ x (o : Occurrence) matched, findAny forms x = some (o, matched) →
      ∃ u y, u <+: matched ∧ o.replacement aligned fallback = u ++ '<' :: y := by
    intro x o matched _
    obtain ⟨y, hy⟩ := fallback.exists_markup_eq_cons (o.exists_ruby_segments aligned)
    exact ⟨[], y, List.nil_prefix, hy⟩
  cases hfind : g.find (c :: pass (findAny forms) (Occurrence.replacement aligned fallback)
      (some c) t) with
  | none => rfl
  | some r =>
      obtain ⟨o, matched⟩ := r
      obtain ⟨_, ho, rest, hrest⟩ := find_eq_some hfind
      rw [← pass_cons hany none] at hrest
      have hangle : '<' ∉ g.write o :=
        notMem_write (by decide) (fun hmem => (h.isPlain hg _ hmem).1 rfl) ho
      obtain ⟨z, hz⟩ :=
        prefix_of_prefix_pass (isSearch_findAny forms) hreplace hangle ⟨rest, hrest.symm⟩
      rw [← hz, h.find_write hg ho] at hlast
      exact absurd hlast (by simp)

/-- **Two passes are one.**  A form that is applied behind others finds what it would find if it were
searched for along with them. -/
theorem pass_pass (h : Independent (forms ++ [g])) (before : Option Char) (t : Text) :
    pass g.find (Occurrence.replacement aligned fallback) before
        (pass (findAny forms) (Occurrence.replacement aligned fallback) before t)
      = pass (findAny (forms ++ [g])) (Occurrence.replacement aligned fallback) before t := by
  have hg : g ∈ forms ++ [g] := by simp
  refine pass_induction (isSearch_findAny (forms ++ [g])) (motive := fun before t =>
    pass g.find (Occurrence.replacement aligned fallback) before
        (pass (findAny forms) (Occurrence.replacement aligned fallback) before t)
      = pass (findAny (forms ++ [g])) (Occurrence.replacement aligned fallback) before t)
    ?_ ?_ ?_ before t
  · intro before
    simp
  · intro before c t hnone ih
    obtain ⟨hany, hlast⟩ : findAny forms (c :: t) = none ∧ g.find (c :: t) = none := by
      rwa [findAny_concat, Option.or_eq_none_iff] at hnone
    rw [pass_cons hany, pass_cons (h.find_cons_pass_eq_none hany hlast), pass_cons hnone, ih]
  · intro before matched t o hsome hne ih
    obtain ⟨f, hf, hfind⟩ := h.findAny_eq_some_iff.1 hsome
    obtain ⟨rfl, ho, _⟩ := find_eq_some hfind
    have hbehind : behind before (f.write o) ≠ some escapeChar :=
      behind_ne_escape_of_ne_nil before hne (escape_notMem_write (h.escape_notMem hf) ho)
    rw [pass_eq_pass_none (isSearch_find g) hbehind,
      pass_eq_pass_none (isSearch_findAny forms) hbehind,
      pass_eq_pass_none (isSearch_findAny (forms ++ [g])) hbehind] at ih
    rw [pass_append_found hsome hne, pass_eq_pass_none (isSearch_findAny (forms ++ [g])) hbehind,
      ← ih]
    cases hany : findAny forms (f.write o ++ t) with
    | some r =>
        -- the first pass converts the occurrence, and the second one leaves what is there now
        obtain rfl : r = (o, f.write o) := by simpa [findAny_concat, hany] using hsome
        rw [pass_append_found hany hne, pass_eq_pass_none (isSearch_findAny forms) hbehind]
        split_ifs with hescaped
        · exact h.pass_escaped hf hg ho hescaped _
        · have hbefore : before ≠ some escapeChar := by
            rintro rfl
            exact hescaped (by simp [isEscaped])
          exact pass_markup_append (h.isPlain hg) (h.opening_not_isInner hg) fallback
            (o.over_segments aligned ho.word ho.gloss) hbefore _
    | none =>
        -- the first pass leaves the occurrence to the second one
        have hlast : g.find (f.write o ++ t) = some (o, f.write o) := by
          simpa [findAny_concat, hany] using hsome
        obtain rfl := h.eq_of_find hf hg hfind hlast
        rw [h.pass_findAny_write ho hany, pass_append_found (h.find_write hf ho _) hne,
          pass_eq_pass_none (isSearch_find f) hbehind]

/-- **All passes are one**, which converts at every place what any of the forms finds there. -/
theorem foldl_apply (h : Independent forms) (t : Text) :
    forms.foldl (fun t f => f.apply aligned fallback t) t
      = pass (findAny forms) (Occurrence.replacement aligned fallback) none t := by
  induction forms using List.reverseRecOn with
  | nil =>
      refine (pass_eq_self (isSearch_findAny []) none fun x _ a matched hfind => ?_).symm
      exact absurd hfind (by simp [findAny])
  | append_singleton forms g ih =>
      rw [List.foldl_append, ih (h.of_subset (List.subset_append_left _ _))]
      exact h.pass_pass none t

lemma foldl_perm (h : Independent forms) {forms' : List Form} (hperm : forms.Perm forms') (t : Text) :
    forms.foldl (fun t f => f.apply aligned fallback t) t
      = forms'.foldl (fun t f => f.apply aligned fallback t) t := by
  rw [h.foldl_apply, (h.of_subset hperm.symm.subset).foldl_apply, h.findAny_perm hperm]

end Independent

end Passes

/-! ## Forms in the options -/

namespace Independent

/-- Joined forms are read as they were written, without those too large for a matcher. -/
lemma compileList_writeList (h : Independent forms) (hne : forms ≠ []) :
    compileList (writeList forms) = forms.filter compiles :=
  compileList_writeList_eq_filter hne fun f hf =>
    ⟨fun hmem => (h.punctuation f hf _ hmem).2 (by simp),
      fun hmem => (h.punctuation f hf _ hmem).2 (by simp)⟩

end Independent

end Form

/-- **The order of independent forms makes no difference**: whichever way they are joined, any engines
that calls have led to return the same, with all other options alike. -/
theorem Engine.render_perm {e e' : Engine} (he : e.Reachable) (he' : e'.Reachable)
    {forms forms' : List Form} (h : Form.Independent forms) (hperm : forms.Perm forms') (o : Options)
    (t : Text) :
    (e.render { o with forms := Form.writeList forms } t).1
      = (e'.render { o with forms := Form.writeList forms' } t).1 := by
  rcases eq_or_ne forms [] with rfl | hne
  · obtain rfl := hperm.nil_eq
    rw [he.render_eq, he'.render_eq]
  have hne' : forms' ≠ [] := fun hnil => hne (hnil ▸ hperm).eq_nil
  have hfilter : (forms.filter Form.compiles).Perm (forms'.filter Form.compiles) :=
    hperm.filter Form.compiles
  have hpasses : ({ o with forms := Form.writeList forms } : Options).activeForms.foldl
        (fun t f => f.apply o.patternMatching o.fallback t) t
      = ({ o with forms := Form.writeList forms' } : Options).activeForms.foldl
        (fun t f => f.apply o.patternMatching o.fallback t) t := by
    rw [Options.activeForms, Options.activeForms, h.compileList_writeList hne,
      (h.of_subset hperm.symm.subset).compileList_writeList hne']
    split_ifs
    · exact (h.of_subset (List.filter_subset_self forms)).foldl_perm hfilter t
    · rfl
  rw [he.render_eq, he'.render_eq, Options.render, Options.render, convert, convert]
  exact congrArg (fun t => unescape o.fallback
    (o.activePairs.foldl (fun t b => b.apply o.patternMatching o.fallback t) t)) hpasses

/-- Three forms, two of which share the opening glyph, in a text with all of them, an escape, and
fallback brackets that one of them begins with. -/
theorem Engine.render_perm_shared_opening :
    ∃ (forms forms' : List Form) (o : Options) (t : Text), Form.Independent forms ∧
      forms.Perm forms' ∧ Form.writeList forms = "[]:^:()|[]::\x7b\x7d|/=:+:-.".toList ∧
      Form.writeList forms' = "/=:+:-.|[]::\x7b\x7d|[]:^:()".toList ∧
      o.fallbackBrackets = "[/".toList ∧
      t = "\\/字=+-じ.[記憶]^(きおく)[食べ物]\x7bたべもの\x7d".toList ∧
      (fresh.render { o with forms := Form.writeList forms } t).1
        = (fresh.render { o with forms := Form.writeList forms' } t).1 := by
  let slash : Form := ⟨⟨'/', '='⟩, ['+'], ⟨'-', '.'⟩⟩
  have h : Form.Independent [.standard, .braced, slash] := by
    simp [Form.independent_iff, slash, Form.standard, Form.braced, Form.marks, Form.middle,
      Text.isAsciiPunctuation]
  have hperm : [Form.standard, .braced, slash].Perm [slash, .braced, .standard] := by decide
  exact ⟨_, _, { Options.standard with fallbackBrackets := "[/".toList }, _, h, hperm, rfl, rfl, rfl,
    rfl, render_perm .fresh .fresh h hperm _ _⟩

end Furigana
