import Mathlib
import Furigana.Proofs.Scan
import Furigana.Ruby

/-!
# Nested markup

Converted text is plain text with `ruby`, `rp` and `rt` elements in it, possibly inside each other.
`Markup` is that structure as a tree, so that nesting holds by construction:

* `Markup.toText` — the tree written out, with its tags;
* `Markup.base` — what is left when every `rp` and `rt` element is deleted with its content, and
  every `ruby` tag;
* `Markup.Over` — all text of the tree is over a class of characters;
* `toText_injective` — a text over anything but `<` is the writing of at most one tree, which makes
  the other notions properties of the written text;
* `Markup.ofSegments` — the tree of converted segments.
-/

namespace Furigana

/-- All text of a segment is over the class `p`. -/
def Segment.Over (p : Char → Prop) : Segment → Prop
  | .ruby base gloss => (∀ c ∈ base, p c) ∧ ∀ c ∈ gloss, p c
  | .literal text => ∀ c ∈ text, p c

/-- The elements that markup is made of. -/
inductive Tag where
  | ruby
  | rp
  | rt
deriving DecidableEq, Repr

namespace Tag

/-- The name of an element. -/
def name : Tag → Text
  | ruby => "ruby".toList
  | rp => "rp".toList
  | rt => "rt".toList

/-- The tag at the start of an element. -/
def opening (tag : Tag) : Text := '<' :: tag.name ++ ['>']

/-- The tag at the end of an element. -/
def closing (tag : Tag) : Text := '<' :: '/' :: tag.name ++ ['>']

end Tag

/-- An annotation, tag by tag. -/
lemma Brackets.ruby_eq (b : Brackets) (base gloss : Text) :
    b.ruby base gloss =
      Tag.ruby.opening ++ base
        ++ Tag.rp.opening ++ [b.opening] ++ (Tag.rp.closing ++ Tag.rt.opening)
        ++ gloss ++ (Tag.rt.closing ++ Tag.rp.opening)
        ++ [b.closing] ++ (Tag.rp.closing ++ Tag.ruby.closing) := rfl

/-- Text with elements in it: plain text, or plain text followed by an element and the rest. -/
inductive Markup where
  | text (t : Text)
  | element (lead : Text) (tag : Tag) (content rest : Markup)
deriving DecidableEq, Repr

namespace Markup

/-- The tree written out. -/
def toText : Markup → Text
  | text t => t
  | element lead tag content rest =>
      lead ++ (tag.opening ++ (content.toText ++ (tag.closing ++ rest.toText)))

/-- What is left without the `rp` and `rt` elements and without the `ruby` tags. -/
def base : Markup → Text
  | text t => t
  | element lead tag content rest =>
      lead ++ ((if tag = .ruby then content.base else []) ++ rest.base)

/-- All plain text of the tree is over the class `p`. -/
def Over (p : Char → Prop) : Markup → Prop
  | text t => ∀ c ∈ t, p c
  | element lead _ content rest => (∀ c ∈ lead, p c) ∧ content.Over p ∧ rest.Over p

/-- One tree behind another.  Plain text at the seam is joined. -/
def append : Markup → Markup → Markup
  | text t, text u => text (t ++ u)
  | text t, element lead tag content rest => element (t ++ lead) tag content rest
  | element lead tag content rest, m => element lead tag content (append rest m)

instance : Append Markup := ⟨append⟩

variable {p : Char → Prop} {m n : Markup}

@[simp] lemma text_append_text (t u : Text) : text t ++ text u = text (t ++ u) := rfl

@[simp] lemma text_append_element (t lead : Text) (tag : Tag) (content rest : Markup) :
    text t ++ element lead tag content rest = element (t ++ lead) tag content rest := rfl

@[simp] lemma element_append (lead : Text) (tag : Tag) (content rest m : Markup) :
    element lead tag content rest ++ m = element lead tag content (rest ++ m) := rfl

@[simp] lemma toText_append (m n : Markup) : (m ++ n).toText = m.toText ++ n.toText := by
  induction m with
  | text t => cases n <;> simp [toText]
  | element lead tag content rest _ ih => simp [toText, ih]

@[simp] lemma base_append (m n : Markup) : (m ++ n).base = m.base ++ n.base := by
  induction m with
  | text t => cases n <;> simp [base]
  | element lead tag content rest _ ih => simp [base, ih]

lemma over_append (hm : m.Over p) (hn : n.Over p) : (m ++ n).Over p := by
  induction m with
  | text t =>
      cases n with
      | text u => exact fun c hc => (List.mem_append.1 hc).elim (hm c) (hn c)
      | element lead tag content rest =>
          exact ⟨fun c hc => (List.mem_append.1 hc).elim (hm c) (hn.1 c), hn.2⟩
  | element lead tag content rest _ ih => exact ⟨hm.1, hm.2.1, ih hm.2.2⟩

/-! ## One reading for each text -/

/-- What may follow a tree inside another one: nothing, or the tag that closes an element. -/
def Ends (t : Text) : Prop := t = [] ∨ ∃ u, t = '<' :: '/' :: u

lemma ends_closing (tag : Tag) (t : Text) : Ends (tag.closing ++ t) := Or.inr ⟨_, rfl⟩

/-- No name is the start of another one, so a tag can be read off the text behind `<`. -/
lemma opening_append_inj {tag tag' : Tag} {t u : Text}
    (h : tag.opening ++ t = tag'.opening ++ u) : tag = tag' ∧ t = u := by
  cases tag <;> cases tag' <;> simp_all [Tag.opening, Tag.name]

lemma not_ends_opening (tag : Tag) (t : Text) : ¬ Ends (tag.opening ++ t) := by
  rintro (h | ⟨u, h⟩)
  · exact absurd h (by simp [Tag.opening])
  · cases tag <;> exact absurd h (by simp [Tag.opening, Tag.name])

/-- The part of a text before the first `c` can be read off it. -/
lemma lead_inj {c : Char} {lead lead' t u : Text} (hlead : c ∉ lead) (hlead' : c ∉ lead')
    (ht : t = [] ∨ t.head? = some c) (hu : u = [] ∨ u.head? = some c)
    (h : lead ++ t = lead' ++ u) : lead = lead' ∧ t = u := by
  have hnotMem : ∀ v : Text, c ∉ v → ∀ d ∈ v, d != c :=
    fun v hv d hd => bne_iff_ne.2 fun heq => hv (heq ▸ hd)
  have hhead : ∀ v : Text, (v = [] ∨ v.head? = some c) → ∀ d ∈ v.head?, ¬ d != c := by
    rintro v (rfl | hv) d hd
    · exact absurd hd (by simp)
    · simpa using (Option.some.inj (hv.symm.trans hd)).symm
  exact run_append_inj (hnotMem _ hlead) (hnotMem _ hlead') (hhead t ht) (hhead u hu) h

/-- The plain text of a tree holds no `<`. -/
lemma notMem_of_ne {lead : Text} (h : ∀ c ∈ lead, c ≠ '<') : '<' ∉ lead := fun hmem => h _ hmem rfl

lemma Ends.nil_or_head {t : Text} (h : Ends t) : t = [] ∨ t.head? = some '<' := by
  rcases h with rfl | ⟨u, rfl⟩
  · exact Or.inl rfl
  · exact Or.inr rfl

lemma toText_append_inj (hm : m.Over (· ≠ '<')) (hn : n.Over (· ≠ '<')) {t u : Text}
    (ht : Ends t) (hu : Ends u) (h : m.toText ++ t = n.toText ++ u) : m = n ∧ t = u := by
  induction m generalizing n t u with
  | text v =>
      have hv := notMem_of_ne hm
      cases n with
      | text w =>
          obtain ⟨rfl, htu⟩ := lead_inj hv (notMem_of_ne hn) ht.nil_or_head hu.nil_or_head h
          exact ⟨rfl, htu⟩
      | element lead tag content rest =>
          simp only [toText, List.append_assoc] at h
          obtain ⟨_, htag⟩ := lead_inj hv (notMem_of_ne hn.1) ht.nil_or_head (Or.inr rfl) h
          exact absurd (htag ▸ ht) (not_ends_opening tag _)
  | element lead tag content rest ihc ihr =>
      have hlead := notMem_of_ne hm.1
      cases n with
      | text w =>
          simp only [toText, List.append_assoc] at h
          obtain ⟨_, htag⟩ := lead_inj hlead (notMem_of_ne hn) (Or.inr rfl) hu.nil_or_head h
          exact absurd (htag ▸ hu) (not_ends_opening tag _)
      | element lead' tag' content' rest' =>
          have hlead' := notMem_of_ne hn.1
          simp only [toText, List.append_assoc] at h
          obtain ⟨rfl, hopening⟩ := lead_inj hlead hlead' (Or.inr rfl) (Or.inr rfl) h
          obtain ⟨rfl, hcontent⟩ := opening_append_inj hopening
          obtain ⟨rfl, hclosing⟩ :=
            ihc hm.2.1 hn.2.1 (ends_closing tag _) (ends_closing tag _) hcontent
          obtain ⟨rfl, htu⟩ := ihr hm.2.2 hn.2.2 ht hu (List.append_cancel_left hclosing)
          exact ⟨rfl, htu⟩

/-- **Markup can be read in one way only.** -/
theorem toText_injective (hm : m.Over (· ≠ '<')) (hn : n.Over (· ≠ '<'))
    (h : m.toText = n.toText) : m = n :=
  (toText_append_inj hm hn (Or.inl rfl) (Or.inl rfl) (by simpa using h)).1

/-- An annotation at the front of a text can be read off it. -/
lemma ruby_append_inj {b : Brackets} {word word' gloss gloss' t u : Text}
    (hw : '<' ∉ word) (hw' : '<' ∉ word') (hg : '<' ∉ gloss) (hg' : '<' ∉ gloss')
    (h : b.ruby word gloss ++ t = b.ruby word' gloss' ++ u) : word = word' ∧ gloss = gloss' := by
  simp only [Brackets.ruby_eq, List.append_assoc] at h
  obtain ⟨hword, h⟩ := lead_inj hw hw' (Or.inr rfl) (Or.inr rfl) (List.append_cancel_left h)
  have h := List.append_cancel_left (List.append_cancel_left (List.append_cancel_left
    (List.append_cancel_left h)))
  exact ⟨hword, (lead_inj hg hg' (Or.inr rfl) (Or.inr rfl) h).1⟩

lemma Over.mono {q : Char → Prop} (h : m.Over p) (hpq : ∀ c, p c → q c) : m.Over q := by
  induction m with
  | text t => exact fun c hc => hpq c (h c hc)
  | element lead tag content rest ihc ihr =>
      exact ⟨fun c hc => hpq c (h.1 c hc), ihc h.2.1, ihr h.2.2⟩

/-- What a tree is written with: its text and its tags. -/
lemma over_toText (h : m.Over p) (htag : ∀ tag : Tag, ∀ c ∈ tag.opening ++ tag.closing, p c) :
    ∀ c ∈ m.toText, p c := by
  induction m with
  | text t => exact h
  | element lead tag content rest ihc ihr =>
      obtain ⟨hlead, hcontent, hrest⟩ := h
      obtain ⟨hopening, hclosing⟩ := List.forall_mem_append.1 (htag tag)
      simp only [toText, List.forall_mem_append]
      exact ⟨hlead, hopening, ihc hcontent, hclosing, ihr hrest⟩

/-! ## The tree of segments -/

/-- The tree of one segment. -/
def ofSegment (b : Brackets) : Segment → Markup
  | .literal t => text t
  | .ruby base gloss =>
      element [] .ruby
        (element base .rp (text [b.opening])
          (element [] .rt (text gloss) (element [] .rp (text [b.closing]) (text []))))
        (text [])

/-- The tree of segments, one after the other. -/
def ofSegments (b : Brackets) : List Segment → Markup
  | [] => text []
  | s :: rest => ofSegment b s ++ ofSegments b rest

@[simp] lemma toText_ofSegment (b : Brackets) (s : Segment) :
    (ofSegment b s).toText = b.segment s := by
  cases s with
  | literal t => rw [ofSegment, toText, Brackets.segment]
  | ruby base gloss => simp [ofSegment, toText, Brackets.segment, Brackets.ruby_eq]

@[simp] lemma toText_ofSegments (b : Brackets) (segments : List Segment) :
    (ofSegments b segments).toText = b.markup segments := by
  induction segments with
  | nil => rfl
  | cons s rest ih => rw [ofSegments, toText_append, toText_ofSegment, ih, Brackets.markup_cons]

lemma base_ofSegments (b : Brackets) (segments : List Segment) :
    (ofSegments b segments).base = segments.flatMap Segment.base := by
  induction segments with
  | nil => rfl
  | cons s rest ih =>
      rw [ofSegments, base_append, ih, List.flatMap_cons]
      cases s <;> simp [ofSegment, base, Segment.base]

lemma over_ofSegments {b : Brackets} (hopening : p b.opening) (hclosing : p b.closing)
    {segments : List Segment} (h : ∀ s ∈ segments, s.Over p) : (ofSegments b segments).Over p := by
  induction segments with
  | nil => simp [ofSegments, Over]
  | cons s rest ih =>
      refine over_append ?_ (ih fun s hs => h s (List.mem_cons_of_mem _ hs))
      have hs := h s (by simp)
      cases s with
      | literal t => exact hs
      | ruby base gloss => simpa [ofSegment, Over, Segment.Over, hopening, hclosing] using hs

end Markup

end Furigana
