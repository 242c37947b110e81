import Mathlib
import Furigana.Form
import Furigana.Proofs.Scan

/-!
# Searching for a form

What `Form.find` finds, and when it finds an occurrence that was written.

* `find_eq_some` — whatever is found is a written occurrence at the start of the text;
* `write_append_inj` — under which form, can be told from the text if the marks are not inner;
* `find_write_iff` — a written occurrence is found as it was written, unless inner characters lead
  from the end of it to another closing glyph;
* `find_append_cons` — a character that a form has no use for separates what is before it from what
  is behind it.
-/

namespace Furigana.Form

variable {f : Form} {o : Occurrence} {t : Text}

/-- The glyphs of a form and the characters of its separator. -/
def marks (f : Form) : Text := f.main.opening :: f.middle ++ [f.gloss.closing]

/-- A word and a gloss of inner characters, neither of them empty. -/
@[mk_iff] structure Occurrence.IsInner (o : Occurrence) : Prop where
  word_ne : o.word ≠ []
  gloss_ne : o.gloss ≠ []
  word : ∀ c ∈ o.word, isInner c
  gloss : ∀ c ∈ o.gloss, isInner c

/-- An occurrence that holds none of the marks of the form. -/
@[mk_iff] structure Admits (f : Form) (o : Occurrence) : Prop extends o.IsInner where
  word_marks : ∀ c ∈ o.word, c ∉ f.marks
  gloss_marks : ∀ c ∈ o.gloss, c ∉ f.marks

/-- Whether inner characters lead to a closing glyph of a gloss. -/
def Reaches (f : Form) (t : Text) : Prop :=
  ∃ x y, t = x ++ f.gloss.closing :: y ∧ ∀ c ∈ x, isInner c

lemma write_append (f : Form) (o : Occurrence) (t : Text) :
    f.write o ++ t
      = f.main.opening :: (o.word ++ (f.middle ++ (o.gloss ++ f.gloss.closing :: t))) := by
  simp [write]

lemma write_ne_nil (f : Form) (o : Occurrence) : f.write o ≠ [] := by simp [write]

lemma middle_subset_marks : f.middle ⊆ f.marks := by
  intro c hc
  rw [marks]
  exact List.mem_append_left _ (List.mem_cons_of_mem _ hc)

/-- Words and glosses hold inner characters only. -/
lemma notMem_of_isInner {c : Char} (hc : ¬ isInner c) {w : Text} (hw : ∀ e ∈ w, isInner e) : c ∉ w :=
  fun h => hc (hw c h)

/-! ## What is found -/

lemma isPrefixOf?_singleton_eq_some {c : Char} {y z : Text} :
    [c].isPrefixOf? y = some z ↔ y = c :: z := by
  rw [List.isPrefixOf?_eq_some_iff_append_eq]
  exact eq_comm

/-- The gloss that is found: inner characters up to the last closing glyph they reach. -/
lemma findGloss_eq_some {g : Text} (h : f.findGloss t = some g) :
    g ≠ [] ∧ (∀ c ∈ g, isInner c) ∧ ∃ rest, t = g ++ f.gloss.closing :: rest ∧
      ∀ x y, f.gloss.closing :: rest = x ++ y → x ≠ [] → (∀ c ∈ x, isInner c) →
        [f.gloss.closing].isPrefixOf? y = none := by
  obtain ⟨⟨run, z⟩, hrun, rfl⟩ := Option.map_eq_some_iff.1 h
  obtain ⟨hne, hinner, rest, rfl, hnext, hmax⟩ := runThen_eq_some hrun
  obtain rfl := isPrefixOf?_singleton_eq_some.1 hnext
  exact ⟨hne, hinner, z, rfl, hmax⟩

/-- The search behind a word: the middle of the form, then a gloss. -/
lemma middle_bind_eq_some {g : Text} (h : (f.middle.isPrefixOf? t).bind f.findGloss = some g) :
    ∃ z, t = f.middle ++ z ∧ f.findGloss z = some g := by
  obtain ⟨z, hz, hg⟩ := Option.bind_eq_some_iff.1 h
  rw [List.isPrefixOf?_eq_some_iff_append_eq] at hz
  exact ⟨z, hz.symm, hg⟩

lemma middle_bind_append (f : Form) (z : Text) :
    (f.middle.isPrefixOf? (f.middle ++ z)).bind f.findGloss = f.findGloss z := by
  rw [List.isPrefixOf?_eq_some_iff_append_eq.2 rfl, Option.bind_some]

/-- **What is found** is an occurrence of inner characters, as it is written. -/
theorem find_eq_some {matched : Text} (h : f.find t = some (o, matched)) :
    matched = f.write o ∧ o.IsInner ∧ ∃ rest, t = f.write o ++ rest := by
  cases t with
  | nil => simp [find] at h
  | cons c t =>
      rw [find] at h
      split_ifs at h with hc
      obtain ⟨⟨word, gloss⟩, hrun, heq⟩ := Option.map_eq_some_iff.1 h
      obtain ⟨rfl, rfl⟩ := Prod.mk.inj heq
      obtain ⟨hword, hinner, rest, rfl, hnext, _⟩ := runThen_eq_some hrun
      obtain ⟨z, rfl, hgloss⟩ := middle_bind_eq_some hnext
      obtain ⟨hne, hgi, rest, rfl, _⟩ := findGloss_eq_some hgloss
      exact ⟨rfl, ⟨hword, hne, hinner, hgi⟩, rest, by rw [write_append, hc]⟩

/-- **What is written can be read in one way only**, if the marks of the forms are not inner: they end
the word and the gloss. -/
theorem write_append_inj {g : Form} {o' : Occurrence} {u : Text} (hf : ∀ c ∈ f.marks, ¬ isInner c)
    (hg : ∀ c ∈ g.marks, ¬ isInner c) (ho : o.IsInner) (ho' : o'.IsInner)
    (h : f.write o ++ t = g.write o' ++ u) : f = g ∧ o = o' := by
  have hmiddle : ∀ {f : Form}, (∀ c ∈ f.marks, ¬ isInner c) → ∀ x,
      ∀ c ∈ (f.middle ++ x).head?, ¬ isInner c := by
    intro f hf x c hc
    obtain rfl : f.main.closing = c := by simpa [middle] using hc
    exact hf _ (middle_subset_marks (by simp [middle]))
  have hgloss : ∀ {o : Occurrence}, o.IsInner → ∀ x, ∀ c ∈ (o.gloss ++ x).head?, ¬ !isInner c := by
    intro o ho x c hc
    obtain ⟨d, gloss, hd⟩ := List.exists_cons_of_ne_nil ho.gloss_ne
    obtain rfl : d = c := by simpa [hd] using hc
    simpa using ho.gloss d (by simp [hd])
  have hstop : ∀ {f : Form}, (∀ c ∈ f.marks, ¬ isInner c) → ∀ x : Text,
      ∀ c ∈ (f.gloss.closing :: x).head?, ¬ isInner c := by
    intro f hf x c hc
    obtain rfl : f.gloss.closing = c := by simpa using hc
    exact hf _ (by simp [marks])
  have hmarks : ∀ {f : Form}, (∀ c ∈ f.marks, ¬ isInner c) → ∀ c ∈ f.middle, !isInner c :=
    fun hf c hc => by simpa using hf c (middle_subset_marks hc)
  -- word, middle and gloss are the longest runs of inner and other characters in turn
  rw [write_append, write_append] at h
  obtain ⟨hopening, h⟩ := List.cons.inj h
  obtain ⟨hword, h⟩ := run_append_inj ho.word ho'.word (hmiddle hf _) (hmiddle hg _) h
  obtain ⟨hmid, h⟩ := run_append_inj (hmarks hf) (hmarks hg) (hgloss ho _) (hgloss ho' _) h
  obtain ⟨hreading, h⟩ := run_append_inj ho.gloss ho'.gloss (hstop hf _) (hstop hg _) h
  obtain ⟨hclosing, _⟩ := List.cons.inj h
  obtain ⟨hmain, hmid⟩ := List.cons.inj hmid
  obtain ⟨hseparator, hglyph⟩ := List.append_inj' hmid rfl
  obtain ⟨hglyph, _⟩ := List.cons.inj hglyph
  constructor
  · calc f = ⟨⟨f.main.opening, f.main.closing⟩, f.separator, ⟨f.gloss.opening, f.gloss.closing⟩⟩ := rfl
      _ = g := by rw [hopening, hmain, hseparator, hglyph, hclosing]
  · calc o = ⟨o.word, o.gloss⟩ := rfl
      _ = o' := by rw [hword, hreading]

lemma isSearch_find (f : Form) : IsSearch f.find := by
  intro t o matched h
  obtain ⟨rfl, _, hrest⟩ := find_eq_some h
  exact ⟨write_ne_nil f o, hrest⟩

lemma find_cons_of_ne {c : Char} (h : c ≠ f.main.opening) : f.find (c :: t) = none := by
  rw [find, if_neg h]

/-- The search for a gloss does not look beyond a character that neither gloss nor form holds. -/
lemma findGloss_append_cons {c : Char} (hc : ¬ isInner c) (hmark : c ∉ f.marks) (x : Text) :
    f.findGloss (x ++ c :: t) = f.findGloss x := by
  have hclosing : c ∉ [f.gloss.closing] := fun h => hmark (by
    rw [List.mem_singleton.1 h, marks]
    simp)
  rw [findGloss, runThen_append_cons_map hc (isPrefixOf?_append_cons hclosing), Option.map_map]
  rfl

/-- **A character that neither words nor the form hold separates** what stands before it from what
stands behind it. -/
theorem find_append_cons {c : Char} (hc : ¬ isInner c) (hmark : c ∉ f.marks) {x : Text}
    (hx : x ≠ []) : f.find (x ++ c :: t) = f.find x := by
  obtain ⟨d, x, rfl⟩ := List.exists_cons_of_ne_nil hx
  have hmiddle : c ∉ f.middle := fun h => hmark (middle_subset_marks h)
  have hnext : ∀ y, (f.middle.isPrefixOf? (y ++ c :: t)).bind f.findGloss
      = (f.middle.isPrefixOf? y).bind f.findGloss := by
    intro y
    rw [isPrefixOf?_append_cons hmiddle, Option.bind_map]
    exact congrArg _ (funext fun z => findGloss_append_cons hc hmark z)
  rw [List.cons_append, find, find, runThen_append_cons hc hnext]

/-! ## When a written occurrence is found -/

/-- Behind a word that is longer than the written one, the middle of the form can only start where
inner characters have led across the written closing glyph. -/
lemma reaches_of_longer_word (ho : f.Admits o) {x y : Text} {g : Text}
    (hxy : f.middle ++ (o.gloss ++ f.gloss.closing :: t) = x ++ y) (hx : x ≠ [])
    (hinner : ∀ c ∈ x, isInner c) (hy : (f.middle.isPrefixOf? y).bind f.findGloss = some g) :
    isInner f.gloss.closing ∧ f.Reaches t := by
  obtain ⟨z, rfl, hg⟩ := middle_bind_eq_some hy
  obtain ⟨_, hgi, rest, rfl, _⟩ := findGloss_eq_some hg
  obtain ⟨d, gloss, hgloss⟩ := List.exists_cons_of_ne_nil ho.gloss_ne
  have hd : d ∉ f.middle := fun h =>
    ho.gloss_marks d (by simp [hgloss]) (middle_subset_marks h)
  have hclosing : f.main.closing ∉ o.gloss := fun h =>
    ho.gloss_marks _ h (by simp [marks, middle])
  -- the word goes on at least to the end of the middle, because the gloss has no mark
  obtain ⟨x', rfl, hx'⟩ : ∃ x', x = f.middle ++ x' ∧
      o.gloss ++ f.gloss.closing :: t = x' ++ (f.middle ++ (g ++ f.gloss.closing :: rest)) := by
    rcases List.append_eq_append_iff.1 hxy with ⟨x', hx', h⟩ | ⟨m, hm, h⟩
    · exact ⟨x', hx', h⟩
    · rw [hgloss] at h
      obtain ⟨m', rfl, _⟩ := exists_append_of_notMem hd h
      have hlength := congrArg List.length hm
      have hpos := List.length_pos_iff.2 hx
      simp only [List.length_append] at hlength
      omega
  -- and to the end of the gloss, because the middle starts with a mark
  obtain ⟨x'', rfl, hx''⟩ := exists_append_of_notMem hclosing hx'
  have hall : ∀ c ∈ x'' ++ f.middle ++ g, isInner c := by
    intro c hc
    rcases List.mem_append.1 hc with hc | hc
    · rcases List.mem_append.1 hc with hc | hc
      · exact hinner c (by simp [hc])
      · exact hinner c (by simp [hc])
    · exact hgi c hc
  have hsplit : f.gloss.closing :: t = (x'' ++ f.middle ++ g) ++ f.gloss.closing :: rest := by
    rw [hx'', middle]
    simp
  cases hu : x'' ++ f.middle ++ g with
  | nil => simp [middle] at hu
  | cons e u =>
      rw [hu] at hsplit hall
      obtain ⟨rfl, rfl⟩ := List.cons.inj hsplit
      exact ⟨hall _ (by simp), u, rest, rfl, fun c hc => hall c (List.mem_cons_of_mem _ hc)⟩

/-- The gloss is found as it was written exactly if no inner characters lead to another end. -/
lemma findGloss_append_iff {g : Text} (hne : g ≠ []) (hg : ∀ c ∈ g, isInner c) :
    f.findGloss (g ++ f.gloss.closing :: t) = some g
      ↔ ¬ (isInner f.gloss.closing ∧ f.Reaches t) := by
  constructor
  · rintro h ⟨hclosing, x, y, rfl, hx⟩
    obtain ⟨_, _, rest, hrest, hmax⟩ := findGloss_eq_some h
    have hrest := (List.cons.inj (List.append_cancel_left hrest)).2
    have hnone := hmax (f.gloss.closing :: x) (f.gloss.closing :: y) (by rw [← hrest]; rfl)
      (by simp) (by simpa using ⟨hclosing, hx⟩)
    rw [isPrefixOf?_singleton_eq_some.2 rfl] at hnone
    exact absurd hnone (by simp)
  · intro h
    rw [findGloss, runThen_append hne hg (isPrefixOf?_singleton_eq_some.2 rfl) ?_]
    · rfl
    · intro x y hxy hx hinner
      cases hy : [f.gloss.closing].isPrefixOf? y with
      | none => rfl
      | some z =>
          exfalso
          rw [isPrefixOf?_singleton_eq_some] at hy
          subst hy
          cases x with
          | nil => exact hx rfl
          | cons e x =>
              obtain ⟨rfl, rfl⟩ := List.cons.inj hxy
              exact h ⟨hinner _ (by simp), x, z, rfl, fun c hc =>
                hinner c (List.mem_cons_of_mem _ hc)⟩

/-- **When a written occurrence is found as it was written**: exactly if its gloss cannot be
continued over inner characters to another closing glyph. -/
theorem find_write_iff (ho : f.Admits o) :
    f.find (f.write o ++ t) = some (o, f.write o) ↔ ¬ (isInner f.gloss.closing ∧ f.Reaches t) := by
  rw [write_append, find, if_pos rfl, ← findGloss_append_iff ho.gloss_ne ho.gloss]
  constructor
  · intro h
    obtain ⟨⟨word, gloss⟩, hrun, heq⟩ := Option.map_eq_some_iff.1 h
    obtain ⟨rfl, _⟩ := Prod.mk.inj heq
    obtain ⟨_, _, rest, hrest, hnext, _⟩ := runThen_eq_some hrun
    rw [← List.append_cancel_left hrest, middle_bind_append] at hnext
    exact hnext
  · intro h
    rw [runThen_append ho.word_ne ho.word ((middle_bind_append f _).trans h) ?_]
    · rfl
    · intro x y hxy hx hinner
      cases hy : (f.middle.isPrefixOf? y).bind f.findGloss with
      | none => rfl
      | some g =>
          exact absurd (reaches_of_longer_word ho hxy hx hinner hy)
            ((findGloss_append_iff ho.gloss_ne ho.gloss).1 h)

/-- The usual case: a closing glyph that no word or gloss can hold. -/
lemma find_write_of_not_isInner (ho : f.Admits o) (h : ¬ isInner f.gloss.closing) :
    f.find (f.write o ++ t) = some (o, f.write o) :=
  (find_write_iff ho).2 fun hreach => h hreach.1

/-! ## One pass -/

section Pass

variable {aligned : Bool} {fallback : Brackets}

lemma apply_eq_pass (f : Form) (aligned : Bool) (fallback : Brackets) (t : Text) :
    f.apply aligned fallback t
      = pass f.find (fun o => fallback.markup (o.segments aligned)) none t := rfl

/-- Text without opening glyphs stays. -/
lemma pass_append_of_notMem {replace : Occurrence → Text} {before : Option Char} {u : Text}
    (hopening : f.main.opening ∉ u) (hbehind : behind before u ≠ some escapeChar) (t : Text) :
    pass f.find replace before (u ++ t) = u ++ pass f.find replace none t := by
  have hnone : ∀ x, x ≠ [] → x <:+ u → f.find (x ++ t) = none := by
    intro x hx hxu
    obtain ⟨c, x, rfl⟩ := List.exists_cons_of_ne_nil hx
    have hc : c ≠ f.main.opening := by
      rintro rfl
      exact hopening (hxu.mem List.mem_cons_self)
    exact find_cons_of_ne hc
  rw [pass_append_plain before u hnone, pass_eq_pass_none (isSearch_find f) hbehind]

lemma apply_append_plain {u : Text} (hopening : f.main.opening ∉ u) (hesc : escapeChar ∉ u)
    (t : Text) : f.apply aligned fallback (u ++ t) = u ++ f.apply aligned fallback t :=
  pass_append_of_notMem hopening (behind_ne_escape (by simp) hesc) t

lemma not_isInner_escape : ¬ isInner escapeChar := by decide

/-- An occurrence holds inner characters and the marks of the form. -/
lemma notMem_write {c : Char} (hc : ¬ isInner c) (hmarks : c ∉ f.marks) (ho : o.IsInner) :
    c ∉ f.write o := by
  intro h
  rw [write, List.mem_append, List.mem_append, List.cons_append, List.mem_cons,
    List.mem_append] at h
  rcases h with (((h | h | h) | h) | h)
  · exact hmarks (by simp [marks, h])
  · exact hc (ho.word _ h)
  · exact hmarks (middle_subset_marks h)
  · exact hc (ho.gloss _ h)
  · exact hmarks (by simp [marks, List.mem_singleton.1 h])

/-- A form that is written without the escape writes occurrences without it. -/
lemma escape_notMem_write (hf : escapeChar ∉ f.marks) (ho : o.IsInner) :
    escapeChar ∉ f.write o :=
  notMem_write not_isInner_escape hf ho

/-- An occurrence stays if nothing is found at it and inside of it. -/
lemma pass_write_append {find : Text → Option (Occurrence × Text)} {replace : Occurrence → Text}
    (hfind : IsSearch find) (hnone : find (f.write o ++ t) = none)
    (hinside : ∀ c ∈ o.word ++ f.middle ++ o.gloss ++ [f.gloss.closing], ∀ x, find (c :: x) = none)
    (hesc : escapeChar ∉ f.write o) (before : Option Char) :
    pass find replace before (f.write o ++ t) = f.write o ++ pass find replace none t := by
  have hplain : ∀ x, x ≠ [] → x <:+ f.write o → find (x ++ t) = none := by
    intro x hx hxo
    rcases List.suffix_cons_iff.1 hxo with rfl | hxo
    · exact hnone
    · obtain ⟨c, x, rfl⟩ := List.exists_cons_of_ne_nil hx
      exact hinside c (hxo.mem List.mem_cons_self) (x ++ t)
  rw [pass_append_plain before _ hplain,
    pass_eq_pass_none hfind (behind_ne_escape_of_ne_nil before (write_ne_nil f o) hesc)]

/-- The occurrence that is found at the start of a text is replaced. -/
lemma apply_append_found (hf : escapeChar ∉ f.marks)
    (h : f.find (f.write o ++ t) = some (o, f.write o)) :
    f.apply aligned fallback (f.write o ++ t)
      = fallback.markup (o.segments aligned) ++ f.apply aligned fallback t :=
  pass_none_append_found (isSearch_find f) h (write_ne_nil f o)
    (escape_notMem_write hf (find_eq_some h).2.1)

end Pass

end Furigana.Form
