import Mathlib
import Furigana.Proofs.Nesting

/-!
# Documents of the notation

A document is plain text with items in it: words with a gloss, under one of the standard forms or in
one of the standard pairs, the same behind an escape, and escaped lenticular brackets.  It is
converted step by step, and each step is shown to change every item alone.

* `Glossed`, `Item`, `Document` — what is written, with `Valid` for the characters of each part;
* `Document.write`, `Document.rendered` — the document and what becomes of it, item by item;
* `Calm` — a step that leaves clean text and generated markup alone;
* `Annotates` — a calm step that annotates some of the words;
* `Stage` — a calm step that takes every item from one shape to the next;
* `Stage.text` — such a step takes the document from the one shape to the next.
-/

namespace Furigana

/-- The second standard form, `[]::\x7b\x7d`. -/
def Form.braced : Form := ⟨⟨'[', ']'⟩, [], ⟨'\x7b', '\x7d'⟩⟩

/-- The second standard pair. -/
def Brackets.braces : Brackets := ⟨'\x7b', '\x7d'⟩

/-- The characters that the notation gives a meaning: the escape and the glyphs of the standard
forms and pairs. -/
def reserved : Text := ['\\', '[', ']', '\x7b', '\x7d', '【', '】']

/-- A character without a meaning of its own. -/
def IsClean (c : Char) : Prop := c ∉ reserved

/-! ## Items -/

/-- Inner characters that are no lenticular brackets. -/
@[mk_iff] structure Form.Occurrence.Valid (o : Occurrence) : Prop extends o.IsInner where
  word_brackets : ∀ c ∈ o.word, c ≠ '【' ∧ c ≠ '】'
  gloss_brackets : ∀ c ∈ o.gloss, c ≠ '【' ∧ c ≠ '】'

/-- Ideographs, kana and a gloss of inner characters and separators without lenticular brackets. -/
@[mk_iff] structure Detection.Valid (d : Detection) : Prop where
  boundary : d.boundary = []
  base_ne : d.base ≠ []
  gloss_ne : d.gloss ≠ []
  base : ∀ c ∈ d.base, isLogographic c
  suffix : ∀ c ∈ d.suffix, isAnnotation c
  gloss : ∀ c ∈ d.gloss, (isInner c ∨ isSeparator c) ∧ c ≠ '【' ∧ c ≠ '】'

/-- A word with its gloss, as it is written. -/
inductive Glossed where
  /-- Under a form. -/
  | explicit (f : Form) (o : Form.Occurrence)
  /-- In brackets, to be detected. -/
  | detected (b : Brackets) (d : Detection)

namespace Glossed

/-- The word as it is written. -/
def write : Glossed → Text
  | explicit f o => f.write o
  | detected b d => b.write d

/-- What becomes of the word. -/
def segments (aligned : Bool) : Glossed → List Segment
  | explicit _ o => o.segments aligned
  | detected _ d => d.segments aligned

/-- A valid word under a standard form or in a standard pair. -/
def Valid : Glossed → Prop
  | explicit f o => (f = .standard ∨ f = .braced) ∧ o.Valid
  | detected b d => (b = .lenticular ∨ b = .braces) ∧ d.Valid

/-- Whether the pass of the form or the pair is among those that are over. -/
def isDone (forms : List Form) (pairs : List Brackets) : Glossed → Bool
  | explicit f _ => f ∈ forms
  | detected b _ => b ∈ pairs

end Glossed

/-- What stands between the plain pieces of a document. -/
inductive Item where
  /-- A word with its gloss. -/
  | word (g : Glossed)
  /-- A word with its gloss behind an escape. -/
  | escaped (g : Glossed)
  /-- A lenticular bracket behind an escape. -/
  | bracket (c : Char)

namespace Item

/-- The item as it is written. -/
def write : Item → Text
  | word g => g.write
  | escaped g => escapeChar :: g.write
  | bracket c => [escapeChar, c]

/-- The item when the passes of some words are over. -/
def partly (aligned : Bool) (done : Glossed → Bool) : Item → Text
  | word g => if done g then Brackets.lenticular.markup (g.segments aligned) else g.write
  | escaped g => escapeChar :: g.write
  | bracket c => [escapeChar, c]

/-- What becomes of the item: a word is annotated, an escaped word stays as it is, and an escaped
bracket loses its escape. -/
def rendered (aligned : Bool) : Item → Text
  | word g => Brackets.lenticular.markup (g.segments aligned)
  | escaped g => escapeChar :: g.write
  | bracket c => [c]

/-- An item of the notation. -/
def Valid : Item → Prop
  | word g => g.Valid
  | escaped g => g.Valid
  | bracket c => c = '【' ∨ c = '】'

end Item

/-- Items, each of them behind a piece of plain text, and plain text at the end. -/
structure Document where
  items : List (Text × Item)
  last : Text

namespace Document

/-- The document with each item in the given shape. -/
def text (s : Item → Text) (d : Document) : Text :=
  d.items.foldr (fun item rest => item.1 ++ (s item.2 ++ rest)) d.last

/-- The document as it is written. -/
def write (d : Document) : Text := d.text Item.write

/-- What becomes of the document: plain text stays, and every item is rendered. -/
def rendered (aligned : Bool) (d : Document) : Text := d.text (Item.rendered aligned)

/-- Plain text holds no reserved character and does not end in an ideograph before an item; items do
not touch. -/
@[mk_iff] structure Valid (d : Document) : Prop where
  item : ∀ item ∈ d.items, item.2.Valid
  lead : ∀ item ∈ d.items, ∀ c ∈ item.1, IsClean c
  boundary : ∀ item ∈ d.items, ∀ c ∈ item.1.getLast?, ¬ isLogographic c
  gap : ∀ item ∈ d.items.tail, item.1 ≠ []
  last : ∀ c ∈ d.last, IsClean c

@[simp] lemma text_nil (s : Item → Text) (last : Text) : text s ⟨[], last⟩ = last := rfl

@[simp] lemma text_cons (s : Item → Text) (item : Text × Item) (items : List (Text × Item))
    (last : Text) :
    text s ⟨item :: items, last⟩ = item.1 ++ (s item.2 ++ text s ⟨items, last⟩) := rfl

lemma Valid.tail {item : Text × Item} {items : List (Text × Item)} {last : Text}
    (h : Valid ⟨item :: items, last⟩) : Valid ⟨items, last⟩ where
  item i hi := h.item i (List.mem_cons_of_mem _ hi)
  lead i hi := h.lead i (List.mem_cons_of_mem _ hi)
  boundary i hi := h.boundary i (List.mem_cons_of_mem _ hi)
  gap i hi := h.gap i (List.mem_of_mem_tail hi)
  last := h.last

end Document

/-! ## Clean characters -/

section Clean

variable {c : Char}

lemma mem_reserved : c ∈ reserved ↔
    c = '\\' ∨ c = '[' ∨ c = ']' ∨ c = '\x7b' ∨ c = '\x7d' ∨ c = '【' ∨ c = '】' := by
  simp [reserved]

lemma isClean_of_isInner (h : isInner c) (hc : c ≠ '【' ∧ c ≠ '】') : IsClean c := by
  rw [IsClean, mem_reserved]
  rintro (rfl | rfl | rfl | rfl | rfl | rfl | rfl)
  · exact absurd h (by decide)
  · exact absurd h (by decide)
  · exact absurd h (by decide)
  · exact absurd h (by decide)
  · exact absurd h (by decide)
  · exact hc.1 rfl
  · exact hc.2 rfl

lemma isClean_of_isSeparator (h : isSeparator c) : IsClean c := by
  have hc : c = '.' ∨ c = '．' ∨ c = '。' ∨ c = '・' := by
    simpa [isSeparator, separators] using h
  rw [IsClean, mem_reserved]
  rcases hc with rfl | rfl | rfl | rfl <;> decide

/-- The reserved characters stand before the kana. -/
lemma toNat_of_mem_reserved (h : c ∈ reserved) : c.val.toNat < 0x3041 := by
  rw [mem_reserved] at h
  rcases h with rfl | rfl | rfl | rfl | rfl | rfl | rfl <;> decide

lemma isClean_of_isLogographic (h : isLogographic c) : IsClean c := by
  intro hmem
  have hlow := toNat_of_mem_reserved hmem
  have hhigh := (isLogographic_iff.1 h).1
  omega

lemma isClean_of_isAnnotation (h : isAnnotation c) : IsClean c := by
  intro hmem
  have hlow := toNat_of_mem_reserved hmem
  have hhigh := (isAnnotation_bounds h).1
  omega

lemma not_isLogographic_of_mem_reserved (h : c ∈ reserved) : ¬ isLogographic c :=
  fun hlog => isClean_of_isLogographic hlog h

lemma not_isAnnotation_of_mem_reserved (h : c ∈ reserved) : ¬ isAnnotation c :=
  fun hann => isClean_of_isAnnotation hann h

lemma notMem_of_isClean {u : Text} (hu : ∀ c ∈ u, IsClean c) (hc : c ∈ reserved) : c ∉ u :=
  fun hmem => hu c hmem hc

end Clean

/-! ## Words -/

lemma Form.Occurrence.Valid.isClean_word {o : Occurrence} (h : o.Valid) : ∀ c ∈ o.word, IsClean c :=
  fun c hc => isClean_of_isInner (h.word c hc) (h.word_brackets c hc)

lemma Form.Occurrence.Valid.isClean_gloss {o : Occurrence} (h : o.Valid) :
    ∀ c ∈ o.gloss, IsClean c :=
  fun c hc => isClean_of_isInner (h.gloss c hc) (h.gloss_brackets c hc)

namespace Detection.Valid

variable {d : Detection}

lemma isClean_base (h : d.Valid) : ∀ c ∈ d.base, IsClean c :=
  fun c hc => isClean_of_isLogographic (h.base c hc)

lemma isClean_suffix (h : d.Valid) : ∀ c ∈ d.suffix, IsClean c :=
  fun c hc => isClean_of_isAnnotation (h.suffix c hc)

lemma isClean_gloss (h : d.Valid) : ∀ c ∈ d.gloss, IsClean c := by
  intro c hc
  obtain ⟨hin | hsep, hne⟩ := h.gloss c hc
  · exact isClean_of_isInner hin hne
  · exact isClean_of_isSeparator hsep

/-- Of the reserved characters a detected word holds the glyphs of its pair only. -/
lemma notMem_write (h : d.Valid) {b : Brackets} {c : Char} (hc : c ∈ reserved)
    (hopening : c ≠ b.opening) (hclosing : c ≠ b.closing) : c ∉ b.write d := by
  have hbase := notMem_of_isClean h.isClean_base hc
  have hsuffix := notMem_of_isClean h.isClean_suffix hc
  have hgloss := notMem_of_isClean h.isClean_gloss hc
  simp [Brackets.write, h.boundary, hbase, hsuffix, hgloss, hopening, hclosing]

/-- A valid word can be detected in both standard pairs. -/
lemma isWord (h : d.Valid) {b : Brackets} (hb : b = .lenticular ∨ b = .braces) : b.IsWord d where
  base_ne := h.base_ne
  gloss_ne := h.gloss_ne
  base := h.base
  suffix := h.suffix
  gloss := by
    intro c hc
    obtain ⟨hchar, hlenticular⟩ := h.gloss c hc
    have hclean := h.isClean_gloss c hc
    rw [IsClean, mem_reserved] at hclean
    rcases hb with rfl | rfl
    · simp [Brackets.allowsInGloss, Brackets.lenticular, isInner] at hchar ⊢
      tauto
    · simp [Brackets.allowsInGloss, Brackets.braces, isInner] at hchar ⊢
      tauto

end Detection.Valid

namespace Glossed

variable {g : Glossed}

lemma isDone_cons_form {f : Form} {forms : List Form} {pairs : List Brackets} :
    g.isDone (f :: forms) pairs ↔ (∃ o, g = explicit f o) ∨ g.isDone forms pairs := by
  cases g <;> simp [isDone]

lemma isDone_cons_pair {b : Brackets} {forms : List Form} {pairs : List Brackets} :
    g.isDone forms (b :: pairs) ↔ (∃ d, g = detected b d) ∨ g.isDone forms pairs := by
  cases g <;> simp [isDone]

/-- What becomes of a word is clean. -/
lemma Valid.over_segments (h : g.Valid) (aligned : Bool) :
    ∀ s ∈ g.segments aligned, s.Over IsClean := by
  cases g with
  | explicit f o =>
      obtain ⟨_, ho⟩ := h
      exact Form.Occurrence.over_segments aligned ho.isClean_word ho.isClean_gloss
  | detected b d =>
      obtain ⟨_, hd⟩ := h
      exact Detection.over_segments aligned hd.isClean_base hd.isClean_suffix hd.isClean_gloss

/-- A written word starts with the glyph of a form or with an ideograph. -/
lemma Valid.exists_cons (h : g.Valid) :
    ∃ c u, g.write = c :: u ∧ (c = '[' ∨ isLogographic c) := by
  cases g with
  | explicit f o =>
      obtain ⟨rfl | rfl, _⟩ := h
      · exact ⟨'[', _, rfl, Or.inl rfl⟩
      · exact ⟨'[', _, rfl, Or.inl rfl⟩
  | detected b d =>
      obtain ⟨_, hd⟩ := h
      obtain ⟨c, base, hbase⟩ := List.exists_cons_of_ne_nil hd.base_ne
      refine ⟨c, base ++ (d.suffix ++ b.opening :: (d.gloss ++ [b.closing])), ?_, ?_⟩
      · simp [write, Brackets.write, hd.boundary, hbase]
      · exact Or.inr (hd.base c (by simp [hbase]))

lemma Valid.exists_ruby_segments (h : g.Valid) (aligned : Bool) :
    ∃ base reading rest, g.segments aligned = .ruby base reading :: rest := by
  cases g with
  | explicit f o => exact o.exists_ruby_segments aligned
  | detected b d => exact Detection.exists_ruby_segments aligned h.2.base_ne

/-- A written word holds no escape. -/
lemma Valid.escape_notMem (h : g.Valid) : escapeChar ∉ g.write := by
  cases g with
  | explicit f o =>
      obtain ⟨hf, ho⟩ := h
      refine Form.escape_notMem_write ?_ ho.toIsInner
      rcases hf with rfl | rfl <;> decide
  | detected b d =>
      obtain ⟨hb, hd⟩ := h
      refine hd.notMem_write (by decide) ?_ ?_
      · rcases hb with rfl | rfl <;> decide
      · rcases hb with rfl | rfl <;> decide

end Glossed

/-! ## Steps of a conversion -/

/-- A step that leaves clean text and generated markup alone.  Clean text may only be cut off where
what follows is a `stop`. -/
structure Calm (φ : Text → Text) (stop : Text → Prop) : Prop where
  tag : TagLocal φ
  nil : φ [] = []
  bracket : ∀ c, c = '【' ∨ c = '】' → φ [c] = [c]
  clean : ∀ u t, (∀ c ∈ u, IsClean c) → stop t → φ (u ++ t) = u ++ φ t
  stop_nil : stop []
  stop_clean : ∀ u t, (∀ c ∈ u, IsClean c) → stop t → stop (u ++ t)
  stop_tag : ∀ g t, IsTag g → stop (g ++ t)

/-- Whether a text starts like an item: with an escape, a form, a detected word or an annotation. -/
def StartsItem (t : Text) : Prop :=
  ∃ c u, t = c :: u ∧ (c = escapeChar ∨ c = '[' ∨ c = '<' ∨ isLogographic c)

/-- A calm step that takes every item from the shape `s` to the shape `s'`, and leaves the text
before an item alone. -/
structure Stage (φ : Text → Text) (stop : Text → Prop) (s s' : Item → Text) : Prop
    extends Calm φ stop where
  item : ∀ i t, i.Valid → stop t → φ (s i ++ t) = s' i ++ φ t
  lead : ∀ u i t, (∀ c ∈ u, IsClean c) → (∀ c ∈ u.getLast?, ¬ isLogographic c) → i.Valid →
    φ (u ++ (s i ++ t)) = u ++ φ (s i ++ t) ∧ (u ≠ [] → stop (u ++ (s i ++ t)))

/-- A pass that annotates the words in `own` and leaves other words alone, and escaped ones. -/
structure Annotates (aligned : Bool) (φ : Text → Text) (stop : Text → Prop) (own : Glossed → Prop) :
    Prop extends Calm φ stop where
  word : ∀ (g : Glossed) t, g.Valid → own g → stop t →
    φ (g.write ++ t) = Brackets.lenticular.markup (g.segments aligned) ++ φ t
  other : ∀ (g : Glossed) t, g.Valid → ¬ own g → stop t → φ (g.write ++ t) = g.write ++ φ t
  escaped : ∀ (g : Glossed) t, g.Valid → stop t →
    φ (escapeChar :: (g.write ++ t)) = escapeChar :: (g.write ++ φ t)
  escaped_bracket : ∀ c t, c = '【' ∨ c = '】' → stop t →
    φ (escapeChar :: c :: t) = escapeChar :: c :: φ t
  lead : ∀ u t, (∀ c ∈ u, IsClean c) → (∀ c ∈ u.getLast?, ¬ isLogographic c) → StartsItem t →
    φ (u ++ t) = u ++ φ t ∧ (u ≠ [] → stop (u ++ t))

section Steps

variable {φ : Text → Text} {stop : Text → Prop} {s s' : Item → Text}

lemma Calm.self (h : Calm φ stop) {u : Text} (hu : ∀ c ∈ u, IsClean c) : φ u = u := by
  have hnil := h.clean u [] hu h.stop_nil
  rwa [h.nil, List.append_nil] at hnil

/-- An annotation of clean text stays. -/
lemma Calm.ruby (h : Calm φ stop) {base gloss : Text} (hbase : ∀ c ∈ base, IsClean c)
    (hgloss : ∀ c ∈ gloss, IsClean c) (t : Text) :
    φ (Brackets.lenticular.ruby base gloss ++ t) = Brackets.lenticular.ruby base gloss ++ φ t := by
  have htag : ∀ g, IsTag g → ∀ x, φ (g ++ x) = g ++ φ x := by
    intro g hg x
    simpa [h.nil] using h.tag g hg [] x
  have hopening : ∀ tag, ∀ a x, φ (a ++ (Tag.opening tag ++ x)) = φ a ++ (tag.opening ++ φ x) :=
    fun tag => h.tag _ (isTag_opening tag)
  have hclosing : ∀ tag, ∀ a x, φ (a ++ (Tag.closing tag ++ x)) = φ a ++ (tag.closing ++ φ x) :=
    fun tag => h.tag _ (isTag_closing tag)
  simp only [Brackets.ruby_eq, List.append_assoc]
  rw [htag _ (isTag_opening .ruby), hopening .rp, hclosing .rp, htag _ (isTag_opening .rt),
    hclosing .rt, htag _ (isTag_opening .rp), hclosing .rp, htag _ (isTag_closing .ruby),
    h.self hbase, h.self hgloss]
  rw [show φ [Brackets.lenticular.opening] = _ from h.bracket '【' (Or.inl rfl),
    show φ [Brackets.lenticular.closing] = _ from h.bracket '】' (Or.inr rfl)]
  rfl

/-- Generated markup stays, and text may be cut off in front of it. -/
lemma Calm.markup (h : Calm φ stop) {segments : List Segment}
    (hsegments : ∀ segment ∈ segments, segment.Over IsClean) {t : Text} (ht : stop t) :
    φ (Brackets.lenticular.markup segments ++ t) = Brackets.lenticular.markup segments ++ φ t ∧
      stop (Brackets.lenticular.markup segments ++ t) := by
  induction segments with
  | nil => exact ⟨rfl, ht⟩
  | cons segment segments ih =>
      obtain ⟨ihφ, ihstop⟩ := ih fun r hr => hsegments r (List.mem_cons_of_mem _ hr)
      have hsegment := hsegments segment (by simp)
      rw [Brackets.markup_cons, List.append_assoc, List.append_assoc]
      cases segment with
      | literal u =>
          refine ⟨?_, h.stop_clean u _ hsegment ihstop⟩
          rw [Brackets.segment, h.clean u _ hsegment ihstop, ihφ]
      | ruby base gloss =>
          obtain ⟨hbase, hgloss⟩ := hsegment
          refine ⟨?_, ?_⟩
          · rw [Brackets.segment, h.ruby hbase hgloss, ihφ]
          · rw [Brackets.segment, Brackets.ruby_eq]
            simp only [List.append_assoc]
            exact h.stop_tag _ _ (isTag_opening .ruby)

lemma Item.partly_isDone_nil (aligned : Bool) :
    Item.partly aligned (Glossed.isDone [] []) = Item.write := by
  funext i
  cases i with
  | word g => cases g <;> rfl
  | escaped g => rfl
  | bracket c => rfl

lemma Item.Valid.startsItem {i : Item} (hi : i.Valid) (aligned : Bool) (done : Glossed → Bool)
    (t : Text) : StartsItem (i.partly aligned done ++ t) := by
  cases i with
  | word g =>
      rw [partly]
      split_ifs
      · obtain ⟨base, reading, rest, hrest⟩ := Glossed.Valid.exists_ruby_segments hi aligned
        rw [hrest, Brackets.markup_cons]
        exact ⟨'<', _, rfl, by simp⟩
      · obtain ⟨c, u, hu, hc⟩ := Glossed.Valid.exists_cons hi
        rw [hu]
        exact ⟨c, _, rfl, by tauto⟩
  | escaped g => exact ⟨escapeChar, _, rfl, Or.inl rfl⟩
  | bracket c => exact ⟨escapeChar, _, rfl, Or.inl rfl⟩

/-- The pass of some words is a stage: those words are annotated afterwards. -/
lemma Annotates.stage {aligned : Bool} {own : Glossed → Prop} {done done' : Glossed → Bool}
    (h : Annotates aligned φ stop own) (hdone : ∀ g, done' g ↔ own g ∨ done g) :
    Stage φ stop (Item.partly aligned done) (Item.partly aligned done') where
  toCalm := h.toCalm
  item := by
    intro i t hi ht
    cases i with
    | word g =>
        by_cases hg : done g
        · rw [Item.partly, if_pos hg, Item.partly, if_pos ((hdone g).2 (Or.inr hg))]
          exact (h.toCalm.markup (Glossed.Valid.over_segments hi aligned) ht).1
        by_cases hown : own g
        · rw [Item.partly, if_neg hg, Item.partly, if_pos ((hdone g).2 (Or.inl hown))]
          exact h.word g t hi hown ht
        · have hg' : ¬ done' g := fun h' => ((hdone g).1 h').elim hown hg
          rw [Item.partly, if_neg hg, Item.partly, if_neg hg']
          exact h.other g t hi hown ht
    | escaped g => exact h.escaped g t hi ht
    | bracket c => exact h.escaped_bracket c t hi ht
  lead := fun u i t hu hlast hi => h.lead u _ hu hlast (hi.startsItem aligned done t)

/-- **A stage takes a document from the one shape to the next.** -/
theorem Stage.text (h : Stage φ stop s s') {d : Document} (hd : d.Valid) :
    φ (d.text s) = d.text s' := by
  obtain ⟨items, last⟩ := d
  induction items with
  | nil => exact h.self hd.last
  | cons item items ih =>
      -- behind an item comes the end, or a piece of text that is not empty
      have hstop : stop (Document.text s ⟨items, last⟩) := by
        cases items with
        | nil => simpa using h.stop_clean last [] hd.last h.stop_nil
        | cons next items =>
            have hnext : next ∈ item :: next :: items := by simp
            exact (h.lead next.1 next.2 _ (hd.lead next hnext) (hd.boundary next hnext)
              (hd.item next hnext)).2 (hd.gap next (by simp))
      have hlead := (h.lead item.1 item.2 (Document.text s ⟨items, last⟩) (hd.lead item (by simp))
        (hd.boundary item (by simp)) (hd.item item (by simp))).1
      calc φ (Document.text s ⟨item :: items, last⟩)
          = item.1 ++ φ (s item.2 ++ Document.text s ⟨items, last⟩) := by
            rw [Document.text_cons, hlead]
        _ = item.1 ++ (s' item.2 ++ φ (Document.text s ⟨items, last⟩)) := by
            rw [h.item item.2 _ (hd.item item (by simp)) hstop]
        _ = Document.text s' ⟨item :: items, last⟩ := by
            rw [ih hd.tail, Document.text_cons]

end Steps

end Furigana
