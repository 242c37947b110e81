import Mathlib
import Furigana.Proofs.Markup

/-!
# Markup that is expanded text by text

A pass that scans generated markup annotates the plain text between two tags and nothing else.  On
the tree this replaces every plain text by a tree of its own, which is `Markup.expand`.

* `expand_expand` — two expansions one after the other are one;
* `base_expand_congr`, `over_expand`, `lt_depth_expand_iff` — what an expansion makes of the base,
  the characters and the depth of a tree;
* `texts`, `rubies`, `depth` — the plain texts of a tree, the contents of its `ruby` elements, and how
  deep those stand inside each other;
* `lead` — the text in front of the first element, the one that text in front of the tree joins.
-/

namespace Furigana.Markup

variable {p q : Char → Prop} {F G : Text → Markup} {m n : Markup}

/-! ## Parts of a tree -/

/-- The plain text in front of the first element. -/
def lead : Markup → Text
  | text t => t
  | element lead _ _ _ => lead

/-- The plain texts between the tags, in order. -/
def texts : Markup → List Text
  | text t => [t]
  | element lead _ content rest => lead :: (content.texts ++ rest.texts)

/-- The contents of the `ruby` elements, in the order of their first tags. -/
def rubies : Markup → List Markup
  | text _ => []
  | element _ tag content rest =>
      (if tag = .ruby then [content] else []) ++ (content.rubies ++ rest.rubies)

/-- How many `ruby` elements stand inside each other. -/
def depth : Markup → Nat
  | text _ => 0
  | element _ tag content rest => max (content.depth + if tag = .ruby then 1 else 0) rest.depth

/-- The tree with every plain text replaced by what `F` makes of it. -/
def expand (F : Text → Markup) : Markup → Markup
  | text t => F t
  | element lead tag content rest => F lead ++ element [] tag (content.expand F) (rest.expand F)

/-! ## Trees behind each other -/

@[simp] lemma text_nil_append (m : Markup) : text [] ++ m = m := by cases m <;> simp

@[simp] lemma append_text_nil (m : Markup) : m ++ text [] = m := by
  induction m with
  | text t => simp
  | element lead tag content rest _ ih => simp [ih]

lemma append_assoc (l m n : Markup) : l ++ m ++ n = l ++ (m ++ n) := by
  induction l with
  | text t =>
      cases m with
      | text u => cases n <;> simp
      | element lead tag content rest => simp
  | element lead tag content rest _ ih => simp [ih]

@[simp] lemma lead_text_append (t : Text) (m : Markup) : (text t ++ m).lead = t ++ m.lead := by
  cases m <;> simp [lead]

@[simp] lemma rubies_append (m n : Markup) : (m ++ n).rubies = m.rubies ++ n.rubies := by
  induction m with
  | text t => cases n <;> simp [rubies]
  | element lead tag content rest _ ih => simp [rubies, ih]

@[simp] lemma depth_append (m n : Markup) : (m ++ n).depth = max m.depth n.depth := by
  induction m with
  | text t => cases n <;> simp [depth]
  | element lead tag content rest _ ih => simp [depth, ih, max_assoc]

/-- Segments are annotated side by side. -/
lemma depth_ofSegments_le (b : Brackets) (segments : List Segment) :
    (ofSegments b segments).depth ≤ 1 := by
  induction segments with
  | nil => simp [ofSegments, depth]
  | cons s rest ih => cases s <;> simp [ofSegments, ofSegment, depth, ih]

lemma over_iff : m.Over p ↔ ∀ t ∈ m.texts, ∀ c ∈ t, p c := by
  induction m with
  | text t => simp [Over, texts]
  | element lead tag content rest ihc ihr =>
      simp [Over, texts, ihc, ihr, or_imp, forall_and]

/-- Without elements there is nothing deep. -/
lemma rubies_eq_nil_iff : m.rubies = [] ↔ m.depth = 0 := by
  induction m with
  | text t => simp [rubies, depth]
  | element lead tag content rest ihc ihr =>
      cases tag <;> simp [rubies, depth, ihc, ihr]

/-- The contents of `ruby` elements are over the class of the tree. -/
lemma Over.rubies (h : m.Over p) : ∀ c ∈ m.rubies, c.Over p := by
  induction m with
  | text t => simp [Markup.rubies]
  | element lead tag content rest ihc ihr =>
      intro c hc
      simp only [Markup.rubies, List.mem_append] at hc
      rcases hc with hc | hc | hc
      · split_ifs at hc
        · obtain rfl := List.mem_singleton.1 hc
          exact h.2.1
        · exact absurd hc (by simp)
      · exact ihc h.2.1 c hc
      · exact ihr h.2.2 c hc

/-! ## Expansion -/

@[simp] lemma expand_text (F : Text → Markup) (t : Text) : (text t).expand F = F t := rfl

/-- An element cuts a tree in two that are expanded alone. -/
lemma expand_append_element (m : Markup) (tag : Tag) (content rest : Markup) :
    (m ++ element [] tag content rest).expand F
      = m.expand F ++ element [] tag (content.expand F) (rest.expand F) := by
  induction m with
  | text t => simp [expand]
  | element lead tag' content' rest' _ ih => simp [expand, ih, append_assoc]

/-- Two expansions one after the other are one. -/
theorem expand_expand (F G : Text → Markup) (m : Markup) :
    (m.expand F).expand G = m.expand fun t => (F t).expand G := by
  induction m with
  | text t => rfl
  | element lead tag content rest ihc ihr =>
      rw [expand, expand_append_element, ihc, ihr, expand]

/-- An expansion that makes texts of texts joins trees as they are joined. -/
lemma expand_append {g : Text → Text} (hg : ∀ t u, g (t ++ u) = g t ++ g u) (m n : Markup) :
    (m ++ n).expand (text ∘ g) = m.expand (text ∘ g) ++ n.expand (text ∘ g) := by
  induction m with
  | text t => cases n <;> simp [expand, hg]
  | element lead tag content rest _ ih => simp [expand, ih]

/-- An expansion only depends on what becomes of the texts of the tree. -/
lemma expand_congr (h : ∀ t ∈ m.texts, F t = G t) : m.expand F = m.expand G := by
  induction m with
  | text t => exact h t (by simp [texts])
  | element lead tag content rest ihc ihr =>
      simp only [texts, List.mem_cons, List.mem_append] at h
      rw [expand, expand, h lead (Or.inl rfl), ihc fun t ht => h t (Or.inr (Or.inl ht)),
        ihr fun t ht => h t (Or.inr (Or.inr ht))]

lemma expand_text_self (m : Markup) : m.expand text = m := by
  induction m with
  | text t => rfl
  | element lead tag content rest ihc ihr => simp [expand, ihc, ihr]

/-- A tree whose texts all stay stays. -/
lemma expand_eq_self (h : ∀ t ∈ m.texts, F t = text t) : m.expand F = m :=
  (expand_congr h).trans (expand_text_self m)

/-- Text that an expansion takes off the front of every text is taken off the front of a tree. -/
lemma expand_text_append {u : Text} (hu : ∀ t, F (u ++ t) = text u ++ F t) (m : Markup) :
    (text u ++ m).expand F = text u ++ m.expand F := by
  cases m with
  | text t => exact hu t
  | element lead tag content rest => simp [expand, hu, append_assoc]

/-- Text in front of an element is expanded alone. -/
lemma expand_text_append_element (hnil : F [] = text []) (t : Text) (tag : Tag)
    (content rest : Markup) :
    (text t ++ element [] tag content rest).expand F
      = F t ++ (element [] tag content rest).expand F := by
  simp [expand, hnil]

/-- Segments over a class that the expansion leaves alone stay. -/
lemma expand_ofSegments_append (hF : ∀ u t, (∀ c ∈ u, p c) → F (u ++ t) = text u ++ F t)
    (hnil : F [] = text []) {b : Brackets} (hopening : p b.opening) (hclosing : p b.closing)
    {segments : List Segment} (h : ∀ s ∈ segments, s.Over p) (m : Markup) :
    (ofSegments b segments ++ m).expand F = ofSegments b segments ++ m.expand F := by
  have hself : ∀ u, (∀ c ∈ u, p c) → F u = text u := by
    intro u hu
    simpa [hnil] using hF u [] hu
  induction segments with
  | nil => simp [ofSegments]
  | cons s rest ih =>
      have hs := h s (by simp)
      have hrest := ih fun s hs => h s (List.mem_cons_of_mem _ hs)
      rw [ofSegments, append_assoc, append_assoc, ← hrest]
      cases s with
      | literal u => exact expand_text_append (fun t => hF u t hs) _
      | ruby base gloss =>
          have hb : F [b.opening] = text [b.opening] := hself _ (by simpa using hopening)
          have hb' : F [b.closing] = text [b.closing] := hself _ (by simpa using hclosing)
          simp [ofSegment, expand, hnil, hself base hs.1, hself gloss hs.2, hb, hb']

/-- The base of an expanded tree, text by text. -/
@[simp] lemma base_expand_element (lead : Text) (tag : Tag) (content rest : Markup) :
    ((element lead tag content rest).expand F).base
      = (F lead).base ++ ((if tag = .ruby then (content.expand F).base else [])
        ++ (rest.expand F).base) := by
  simp [expand, base]

/-- **Text in front of a tree** is expanded with the lead of the tree, so its base stays in front of
the base of the tree if it does so for the lead alone. -/
lemma base_expand_text_append {u : Text}
    (h : (F (u ++ m.lead)).base = u ++ (F m.lead).base) :
    ((text u ++ m).expand F).base = u ++ (m.expand F).base := by
  cases m with
  | text t => exact h
  | element lead tag content rest => simp_all [Markup.lead]

/-- Two expansions that give every text the same base give every tree the same base. -/
lemma base_expand_congr (h : ∀ t, (F t).base = (G t).base) (m : Markup) :
    (m.expand F).base = (m.expand G).base := by
  induction m with
  | text t => exact h t
  | element lead tag content rest ihc ihr => simp [h lead, ihc, ihr]

lemma over_expand (hF : ∀ t, (∀ c ∈ t, p c) → (F t).Over q) (hm : m.Over p) :
    (m.expand F).Over q := by
  induction m with
  | text t => exact hF t hm
  | element lead tag content rest ihc ihr =>
      exact over_append (hF lead hm.1) ⟨by simp, ihc hm.2.1, ihr hm.2.2⟩

/-- The `ruby` elements of an expanded tree are over a class if those that were there are expanded
over it, and those that are new are over it. -/
lemma rubies_over_expand (hF : ∀ t, ∀ c ∈ (F t).rubies, c.Over p)
    (hm : ∀ c ∈ m.rubies, (c.expand F).Over p) : ∀ c ∈ (m.expand F).rubies, c.Over p := by
  induction m with
  | text t => exact hF t
  | element lead tag content rest ihc ihr =>
      simp only [rubies, List.mem_append] at hm
      simp only [expand, rubies_append, rubies, List.mem_append]
      rintro c (hc | hc | hc | hc)
      · exact hF lead c hc
      · split_ifs at hc with htag
        · obtain rfl := List.mem_singleton.1 hc
          exact hm content (Or.inl (by simp [htag]))
        · exact absurd hc (by simp)
      · exact ihc (fun c hc => hm c (Or.inr (Or.inl hc))) c hc
      · exact ihr (fun c hc => hm c (Or.inr (Or.inr hc))) c hc

/-- **How deep an expanded tree is.**  It exceeds what single texts reach only inside the `ruby`
elements that were there before. -/
theorem lt_depth_expand_iff {k : ℕ} (hF : ∀ t, (F t).depth ≤ k) (m : Markup) :
    k < (m.expand F).depth ↔ ∃ c ∈ m.rubies, k ≤ (c.expand F).depth := by
  induction m with
  | text t => simp [rubies, hF t]
  | element lead tag content rest ihc ihr =>
      have hlead := hF lead
      have hcontent : (∃ c ∈ content.rubies, k ≤ (c.expand F).depth) →
          k ≤ (content.expand F).depth := fun h => (ihc.2 h).le
      simp only [expand, depth_append, depth, rubies, List.mem_append, lt_max_iff]
      split_ifs with htag
      · simp only [List.mem_singleton, or_and_right, exists_or, exists_eq_left, ← ihr]
        constructor
        · rintro (h | h | h)
          · omega
          · exact Or.inl (by omega)
          · exact Or.inr (Or.inr h)
        · rintro (h | h | h)
          · exact Or.inr (Or.inl (by omega))
          · exact Or.inr (Or.inl (by have := hcontent h; omega))
          · exact Or.inr (Or.inr h)
      · simp [or_and_right, exists_or, ← ihc, ← ihr, not_lt.2 hlead]

/-- A tree without `ruby` elements gets some where one of its texts gets some. -/
lemma depth_expand_pos_iff (hm : m.depth = 0) :
    0 < (m.expand F).depth ↔ ∃ t ∈ m.texts, 0 < (F t).depth := by
  induction m with
  | text t => simp [texts]
  | element lead tag content rest ihc ihr =>
      have htag : tag ≠ .ruby := by
        rintro rfl
        simp [depth] at hm
      simp only [depth, if_neg htag, Nat.add_zero, Nat.max_eq_zero_iff] at hm
      simp [expand, depth, texts, htag, ihc hm.1, ihr hm.2, or_and_right, exists_or]

/-- What stands inside a `ruby` element is less deep than the tree. -/
lemma depth_lt_of_mem_rubies {c : Markup} (hc : c ∈ m.rubies) : c.depth < m.depth := by
  induction m with
  | text t => simp [rubies] at hc
  | element lead tag content rest ihc ihr =>
      simp only [rubies, List.mem_append] at hc
      rw [depth, lt_max_iff]
      rcases hc with hc | hc | hc
      · split_ifs at hc with htag
        · obtain rfl := List.mem_singleton.1 hc
          exact Or.inl (by simp [htag])
        · exact absurd hc (by simp)
      · exact Or.inl (Nat.lt_of_lt_of_le (ihc hc) (Nat.le_add_right _ _))
      · exact Or.inr (ihr hc)

/-- `ruby` elements that an expansion leaves alone stay, and keep their order. -/
lemma rubies_sublist_expand (hm : ∀ c ∈ m.rubies, c.expand F = c) :
    m.rubies.Sublist (m.expand F).rubies := by
  induction m with
  | text t => exact List.nil_sublist _
  | element lead tag content rest ihc ihr =>
      simp only [rubies, List.mem_append] at hm
      simp only [expand, rubies_append, rubies]
      refine List.Sublist.trans ?_ (List.sublist_append_right _ _)
      refine List.Sublist.append ?_ ((ihc fun c hc => hm c (Or.inr (Or.inl hc))).append
        (ihr fun c hc => hm c (Or.inr (Or.inr hc))))
      split_ifs with htag
      · rw [hm content (Or.inl (by simp [htag]))]
      · exact List.Sublist.refl _

/-- An expansion that makes texts of texts keeps the elements where they are. -/
lemma depth_expand_text (g : Text → Text) (m : Markup) : (m.expand (text ∘ g)).depth = m.depth := by
  induction m with
  | text t => rfl
  | element lead tag content rest ihc ihr => simp [expand, depth, ihc, ihr]

lemma rubies_expand_text (g : Text → Text) (m : Markup) :
    (m.expand (text ∘ g)).rubies = m.rubies.map (expand (text ∘ g)) := by
  induction m with
  | text t => rfl
  | element lead tag content rest ihc ihr =>
      cases tag <;> simp [expand, rubies, ihc, ihr]

end Furigana.Markup
