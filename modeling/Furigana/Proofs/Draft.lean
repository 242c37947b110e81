import Mathlib
import Furigana.Proofs.Depth

/-!
# Texts cut at the words under forms

The passes of the forms convert a text word by word, and how a gloss is distributed does not decide
which words those are.  A `Draft` is a text cut at these words, so that the aligned and the plain
conversion can be read off one object.

* `Draft.write`, `Draft.tree` — the text, and what the forms make of it;
* `Draft.IsFree` — the words are those that a pass converts: inner characters under a standard form,
  with no escape in front;
* `Form.exists_draft` — the pass of one form, `Draft.tree_expand` — the pass of another one over it;
* `exists_draft` — both standard forms.
-/

namespace Furigana

/-- A text with words under forms in it: plain text, or plain text followed by a word and the rest. -/
inductive Draft where
  | plain (t : Text)
  | word (lead : Text) (f : Form) (o : Form.Occurrence) (rest : Draft)

namespace Draft

variable {aligned : Bool} {before : Option Char} {c : Char} {t u : Text} {d : Draft}

/-- The text as it is written. -/
def write : Draft → Text
  | plain t => t
  | word lead f o rest => lead ++ (f.write o ++ rest.write)

/-- What becomes of the text when its words are annotated. -/
def tree (aligned : Bool) : Draft → Markup
  | plain t => .text t
  | word lead _ o rest =>
      .text lead ++ (.ofSegments .lenticular (o.segments aligned) ++ rest.tree aligned)

/-- The plain text in front of the first word. -/
def lead : Draft → Text
  | plain t => t
  | word lead _ _ _ => lead

/-- Every word is under a standard form, of inner characters, and has no escape in front of it; the
character `before` stands in front of the draft. -/
def IsFree (before : Option Char) : Draft → Prop
  | plain _ => True
  | word lead f o rest => behind before lead ≠ some escapeChar ∧ (f = .standard ∨ f = .braced) ∧
      o.IsInner ∧ rest.IsFree none

/-- One draft behind another.  Plain text at the seam is joined. -/
def append : Draft → Draft → Draft
  | plain t, plain u => plain (t ++ u)
  | plain t, word lead f o rest => word (t ++ lead) f o rest
  | word lead f o rest, d => word lead f o (append rest d)

instance : Append Draft := ⟨append⟩

/-- The draft with every plain text cut further. -/
def expand (G : Text → Draft) : Draft → Draft
  | plain t => G t
  | word lead f o rest => G lead ++ word [] f o (rest.expand G)

@[simp] lemma plain_append_plain (t u : Text) : plain t ++ plain u = plain (t ++ u) := rfl

@[simp] lemma plain_append_word (t lead : Text) (f : Form) (o : Form.Occurrence) (rest : Draft) :
    plain t ++ word lead f o rest = word (t ++ lead) f o rest := rfl

@[simp] lemma word_append (lead : Text) (f : Form) (o : Form.Occurrence) (rest d : Draft) :
    word lead f o rest ++ d = word lead f o (rest ++ d) := rfl

@[simp] lemma write_append (d d' : Draft) : (d ++ d').write = d.write ++ d'.write := by
  induction d with
  | plain t => cases d' <;> simp [write]
  | word lead f o rest ih => simp [write, ih]

@[simp] lemma tree_append (d d' : Draft) :
    (d ++ d').tree aligned = d.tree aligned ++ d'.tree aligned := by
  induction d with
  | plain t => cases d' <;> simp [tree, ← Markup.append_assoc]
  | word lead f o rest ih => simp [tree, ih, Markup.append_assoc]

/-- The lead of a draft is the start of its text. -/
lemma lead_prefix (d : Draft) : d.lead <+: d.write := by
  cases d with
  | plain t => exact List.prefix_rfl
  | word lead f o rest => exact List.prefix_append _ _

/-- Annotations start with a tag, so the lead of a draft stays in front. -/
lemma lead_tree (aligned : Bool) (d : Draft) : (d.tree aligned).lead = d.lead := by
  cases d with
  | plain t => rfl
  | word lead f o rest =>
      obtain ⟨base, reading, more, hmore⟩ := o.exists_ruby_segments aligned
      simp [tree, hmore, Markup.ofSegments, Markup.ofSegment, Markup.lead, Draft.lead]

/-! ## Words that a pass converts -/

/-- Where no escape ends a text, none ends a part of it at its end. -/
lemma behind_none_ne_escape (h : behind before t ≠ some escapeChar) :
    behind none t ≠ some escapeChar := by
  cases t with
  | nil => simp
  | cons c t => rwa [behind_of_ne_nil none (by simp), ← behind_of_ne_nil before (by simp)]

lemma IsFree.of_before (h : d.IsFree before) : d.IsFree none := by
  cases d with
  | plain t => trivial
  | word lead f o rest => exact ⟨behind_none_ne_escape h.1, h.2⟩

lemma IsFree.of_ne_escape (h : d.IsFree none) (hbefore : before ≠ some escapeChar) :
    d.IsFree before := by
  cases d with
  | plain t => trivial
  | word lead f o rest =>
      refine ⟨?_, h.2⟩
      cases lead with
      | nil => exact hbefore
      | cons c lead =>
          have hlead := h.1
          rwa [behind_of_ne_nil none (by simp), ← behind_of_ne_nil before (by simp)] at hlead

lemma isFree_plain_append : (plain t ++ d).IsFree before ↔ d.IsFree (behind before t) := by
  cases d <;> simp [IsFree]

/-- A word may follow a draft that does not end in an escape. -/
lemma IsFree.append_word (h : d.IsFree before) (hd : behind before d.write ≠ some escapeChar)
    {f : Form} {o : Form.Occurrence} {rest : Draft} (hf : f = .standard ∨ f = .braced)
    (ho : o.IsInner) (hrest : rest.IsFree none) : (d ++ word [] f o rest).IsFree before := by
  induction d generalizing before with
  | plain t => exact isFree_plain_append.2 ⟨hd, hf, ho, hrest⟩
  | word lead f' o' rest' ih =>
      refine ⟨h.1, h.2.1, h.2.2.1, ih h.2.2.2 ?_⟩
      rw [write, behind_append, behind_append] at hd
      exact behind_none_ne_escape hd

end Draft

/-! ## One pass -/

/-- **A pass of a standard form** cuts a text at its words, and how a gloss is distributed does not
matter for that. -/
theorem Form.exists_draft {f : Form} (hf : f = .standard ∨ f = .braced) (t : Text) :
    ∃ d : Draft, d.write = t ∧ d.IsFree none ∧
      ∀ aligned, d.tree aligned = f.tree aligned .lenticular t := by
  let motive (before : Option Char) (t : Text) : Prop :=
    ∃ d : Draft, d.write = t ∧ d.IsFree before ∧ ∀ aligned, d.tree aligned
      = passTree f.find (fun o => .ofSegments .lenticular (o.segments aligned)) before t
  refine pass_induction (isSearch_find f) (motive := motive) ?_ ?_ ?_ none t
  · intro before
    exact ⟨.plain [], rfl, trivial, fun aligned => by rw [passTree_nil, Draft.tree]⟩
  · rintro before c t hnone ⟨d, rfl, hfree, htree⟩
    have hbehind : d.IsFree (behind before [c]) := hfree
    refine ⟨.plain [c] ++ d, by simp [Draft.write], Draft.isFree_plain_append.2 hbehind, ?_⟩
    intro aligned
    rw [passTree_cons hnone, Draft.tree_append, htree, Draft.tree]
  · rintro before matched t o hsome hne ⟨d, rfl, hfree, htree⟩
    obtain ⟨rfl, ho, _⟩ := find_eq_some hsome
    by_cases hescaped : isEscaped before (f.write o)
    · refine ⟨.plain (f.write o) ++ d, by simp [Draft.write], Draft.isFree_plain_append.2 hfree, ?_⟩
      intro aligned
      rw [passTree_append_found hsome hne, if_pos hescaped, Draft.tree_append, htree, Draft.tree]
    · have hbefore : before ≠ some escapeChar := by
        rintro rfl
        simp [isEscaped] at hescaped
      refine ⟨.word [] f o d, by simp [Draft.write], ⟨hbefore, hf, ho, hfree.of_before⟩, ?_⟩
      intro aligned
      rw [passTree_append_found hsome hne, if_neg hescaped, Draft.tree, htree,
        Markup.text_nil_append]

/-! ## The second pass -/

/-- The pass of the second form leaves words and glosses alone. -/
lemma Form.tree_braced_append {aligned : Bool} {u : Text} (hu : ∀ c ∈ u, IsWordy c) (t : Text) :
    Form.braced.tree aligned .lenticular (u ++ t)
      = .text u ++ Form.braced.tree aligned .lenticular t := by
  have hopening : '[' ∉ u := notMem_of_isWordy hu (by decide)
  have hesc : escapeChar ∉ u := notMem_of_isWordy hu (by decide)
  have hnone : ∀ x, x ≠ [] → x <:+ u → Form.braced.find (x ++ t) = none := by
    intro x hx hxu
    obtain ⟨c, x, rfl⟩ := List.exists_cons_of_ne_nil hx
    refine find_cons_of_ne ?_
    rintro rfl
    exact hopening (hxu.mem List.mem_cons_self)
  rw [tree, passTree_append_plain hnone, passTree_eq_none (behind_ne_escape (by simp) hesc)]

/-- What an expansion that leaves words and glosses alone makes of a draft: it goes on with the plain
texts. -/
lemma Draft.tree_expand {aligned : Bool} {F : Text → Markup} {G : Text → Draft}
    (hF : ∀ u t, (∀ c ∈ u, IsWordy c) → F (u ++ t) = .text u ++ F t) (hnil : F [] = .text [])
    (hG : ∀ t, (G t).tree aligned = F t) {d : Draft} {before : Option Char}
    (hd : d.IsFree before) : (d.expand G).tree aligned = (d.tree aligned).expand F := by
  induction d generalizing before with
  | plain t => exact hG t
  | word lead f o rest ih =>
      have hover := hd.2.2.1.segments_over_isWordy aligned
      have hsegments := Markup.expand_ofSegments_append hF hnil isWordy_lenticular.1
        isWordy_lenticular.2 hover (rest.tree aligned)
      obtain ⟨base, reading, more, hmore⟩ := o.exists_ruby_segments aligned
      have hlead : (Draft.tree aligned (word lead f o rest)).expand F
          = F lead ++ (Markup.ofSegments .lenticular (o.segments aligned)
              ++ rest.tree aligned).expand F := by
        rw [Draft.tree, hmore]
        exact Markup.expand_text_append_element hnil _ _ _ _
      rw [hlead, hsegments, ← ih hd.2.2.2, ← hG lead]
      simp [expand, Draft.tree]

lemma Draft.write_expand {G : Text → Draft} (hG : ∀ t, (G t).write = t) (d : Draft) :
    (d.expand G).write = d.write := by
  induction d with
  | plain t => exact hG t
  | word lead f o rest ih => simp [expand, write, hG, ih]

lemma Draft.IsFree.expand {G : Text → Draft} (hwrite : ∀ t, (G t).write = t)
    (hG : ∀ t, (G t).IsFree none) {d : Draft} (hd : d.IsFree none) : (d.expand G).IsFree none := by
  induction d with
  | plain t => exact hG t
  | word lead f o rest ih =>
      refine (hG lead).append_word ?_ hd.2.1 hd.2.2.1 (ih hd.2.2.2)
      rw [hwrite]
      exact hd.1

/-- **The standard forms** cut a text at their words, whether the glosses are aligned or not. -/
theorem exists_draft (t : Text) :
    ∃ d : Draft, d.write = t ∧ d.IsFree none ∧ ∀ aligned, d.tree aligned = explicitTree aligned t := by
  obtain ⟨d, hwrite, hfree, htree⟩ := Form.exists_draft (Or.inl rfl) t
  choose G hGwrite hGfree hGtree using Form.exists_draft (f := .braced) (Or.inr rfl)
  refine ⟨d.expand G, (d.write_expand hGwrite).trans hwrite, hfree.expand hGwrite hGfree, ?_⟩
  intro aligned
  rw [Draft.tree_expand (fun u t hu => Form.tree_braced_append hu t) (passTree_nil none)
    (fun t => hGtree t aligned) hfree, htree]
  rfl

end Furigana
