import Mathlib
import Furigana.Proofs.Depth
import Furigana.Proofs.Html

/-!
# Conversion of text escaped for HTML

In a document text is escaped for HTML before it is converted.  The references stand where the
special characters stood, and no word can hold either, so that the same words are found.  There is one
difference: an escape guards a word that starts one character behind it, and a reference in between is
longer than a character.

* `FreeSpecials` — no escape stands directly before a special character;
* `ReadsReferences` — a pass that passes references as it passes special characters;
* `ReadsReferences.passTree_escapeHtml` — such a pass commutes with escaping;
* `Commutes` — the same for trees, one step after the other;
* `Engine.render_escapeHtml` — the conversion of escaped text is the escaped conversion.
-/

namespace Furigana

open Text (IsSpecial escapeHtml)

variable {aligned : Bool} {before : Option Char} {c : Char} {t u : Text} {m n : Markup}

/-! ## Special characters behind escapes -/

/-- No escape stands directly before a special character, where `before` stands in front of the
text. -/
def FreeSpecials : Option Char → Text → Prop
  | _, [] => True
  | before, c :: t => (before = some escapeChar → ¬ IsSpecial c) ∧ FreeSpecials (some c) t

lemma freeSpecials_append :
    FreeSpecials before (u ++ t) ↔ FreeSpecials before u ∧ FreeSpecials (behind before u) t := by
  induction u generalizing before with
  | nil => simp [FreeSpecials]
  | cons c u ih => simp [FreeSpecials, ih, behind_cons, and_assoc]

lemma FreeSpecials.of_ne_escape {before' : Option Char} (h : FreeSpecials before t)
    (hbefore' : before' ≠ some escapeChar) : FreeSpecials before' t := by
  cases t with
  | nil => trivial
  | cons c t => exact ⟨fun h => absurd h hbefore', h.2⟩

/-- Without escapes there is nothing to see to. -/
lemma freeSpecials_of_notMem (hbefore : before ≠ some escapeChar) (ht : escapeChar ∉ t) :
    FreeSpecials before t := by
  induction t generalizing before with
  | nil => trivial
  | cons c t ih =>
      simp only [List.mem_cons, not_or] at ht
      exact ⟨fun h => absurd h hbefore, ih (by simpa using Ne.symm ht.1) ht.2⟩

/-- The same for every text between the tags of a tree. -/
def Markup.FreeSpecials (before : Option Char) : Markup → Prop
  | text t => Furigana.FreeSpecials before t
  | element lead _ content rest => Furigana.FreeSpecials before lead ∧ content.FreeSpecials none ∧
      rest.FreeSpecials none

namespace Markup

lemma freeSpecials_text_append :
    (text u ++ m).FreeSpecials before ↔
      Furigana.FreeSpecials before u ∧ m.FreeSpecials (behind before u) := by
  cases m with
  | text t => exact freeSpecials_append
  | element lead tag content rest => simp [FreeSpecials, freeSpecials_append, and_assoc]

lemma freeSpecials_append_element {tag : Tag} {content rest : Markup} :
    (m ++ element [] tag content rest).FreeSpecials before ↔
      m.FreeSpecials before ∧ content.FreeSpecials none ∧ rest.FreeSpecials none := by
  induction m generalizing before with
  | text t => simp [FreeSpecials]
  | element lead tag' content' rest' _ ih => simp [FreeSpecials, ih, and_assoc]

lemma FreeSpecials.of_ne_escape {before' : Option Char} (h : m.FreeSpecials before)
    (hbefore' : before' ≠ some escapeChar) : m.FreeSpecials before' := by
  cases m with
  | text t => exact Furigana.FreeSpecials.of_ne_escape h hbefore'
  | element lead tag content rest =>
      exact ⟨Furigana.FreeSpecials.of_ne_escape h.1 hbefore', h.2⟩

lemma FreeSpecials.texts (h : m.FreeSpecials none) :
    ∀ t ∈ m.texts, Furigana.FreeSpecials none t := by
  induction m with
  | text t => simpa [Markup.texts, FreeSpecials] using h
  | element lead tag content rest ihc ihr =>
      simp only [Markup.texts, List.mem_cons, List.mem_append]
      rintro t (rfl | ht | ht)
      · exact h.1
      · exact ihc h.2.1 t ht
      · exact ihr h.2.2 t ht

/-- Words and glosses hold no escapes. -/
lemma freeSpecials_of_isWordy (h : m.Over IsWordy) (hbefore : before ≠ some escapeChar) :
    m.FreeSpecials before := by
  have htext : ∀ (before : Option Char) (t : Text), before ≠ some escapeChar →
      (∀ c ∈ t, IsWordy c) → Furigana.FreeSpecials before t :=
    fun before t hbefore ht => freeSpecials_of_notMem hbefore (notMem_of_isWordy ht (by decide))
  induction m generalizing before with
  | text t => exact htext before t hbefore h
  | element lead tag content rest ihc ihr =>
      exact ⟨htext before lead hbefore h.1, ihc h.2.1 (by simp), ihr h.2.2 (by simp)⟩

/-- Nor do segments of words and glosses. -/
lemma freeSpecials_ofSegments_append {segments : List Segment} (h : ∀ s ∈ segments, s.Over IsWordy)
    (hbefore : before ≠ some escapeChar) (hm : m.FreeSpecials none) :
    (ofSegments .lenticular segments ++ m).FreeSpecials before := by
  induction segments generalizing before with
  | nil => simpa [ofSegments] using hm.of_ne_escape hbefore
  | cons s rest ih =>
      have hs := h s (by simp)
      have hrest : ∀ before, before ≠ some escapeChar →
          (ofSegments .lenticular rest ++ m).FreeSpecials before := fun _ hbefore =>
        ih (fun s hs => h s (List.mem_cons_of_mem _ hs)) hbefore
      rw [ofSegments, append_assoc]
      cases s with
      | literal u =>
          have hesc : escapeChar ∉ u := notMem_of_isWordy hs (by decide)
          rw [ofSegment, freeSpecials_text_append]
          exact ⟨freeSpecials_of_notMem hbefore hesc, hrest _ (behind_ne_escape hbefore hesc)⟩
      | ruby base gloss =>
          have hover : (ofSegments .lenticular [.ruby base gloss]).Over IsWordy :=
            over_ofSegments isWordy_lenticular.1 isWordy_lenticular.2 (by simpa using hs)
          simp only [ofSegments, ofSegment, element_append, text_nil_append] at hover ⊢
          exact ⟨trivial, freeSpecials_of_isWordy hover.2.1 (by simp), hrest none (by simp)⟩

end Markup

/-! ## One pass -/

/-- A character that a pass leaves behind when it stands in front of anything: one that references
are written with. -/
def IsSkipped (c : Char) : Prop := c ≤ '\x7f' ∧ c ≠ escapeChar ∧ c ≠ '['

section Passes

variable {α : Type} {find : Text → Option (α × Text)} {replace : α → Markup}

/-- A pass that passes references as it passes special characters. -/
structure ReadsReferences (find : Text → Option (α × Text)) (replace : α → Markup) : Prop where
  search : IsSearch find
  skip : ∀ before c t, before ≠ some escapeChar → IsSkipped c → '<' ∉ c :: t →
    passTree find replace before (c :: t) = .text [c] ++ passTree find replace (some c) t
  find_eq : ∀ c t, ¬ IsSpecial c → find (escapeHtml (c :: t)) = find (c :: t)
  matched : ∀ c t a matched, ¬ IsSpecial c → find (c :: t) = some (a, matched) →
    (∀ e ∈ matched, ¬ IsSpecial e) ∧ (replace a).Over (¬ IsSpecial ·)
  free : ∀ t a matched, find t = some (a, matched) → escapeChar ∉ matched → ∀ before m,
    before ≠ some escapeChar → m.FreeSpecials none → (replace a ++ m).FreeSpecials before

namespace ReadsReferences

lemma skip_append (h : ReadsReferences find replace) (hbefore : before ≠ some escapeChar)
    (hu : ∀ c ∈ u, IsSkipped c) (ht : '<' ∉ u ++ t) :
    passTree find replace before (u ++ t)
      = .text u ++ passTree find replace (behind before u) t := by
  induction u generalizing before with
  | nil => simp
  | cons c u ih =>
      have hc := hu c (by simp)
      have hut : '<' ∉ u ++ t := fun hmem => ht (List.mem_cons_of_mem c hmem)
      rw [List.cons_append] at ht ⊢
      rw [h.skip before c _ hbefore hc ht, behind_cons,
        ih (by simpa using hc.2.1) (fun d hd => hu d (List.mem_cons_of_mem _ hd)) hut,
        ← Markup.append_assoc]
      simp

lemma isSkipped_reference : ∀ name ∈ Text.referenceNames, ∀ c ∈ '&' :: (name ++ [';']),
    IsSkipped c ∧ c ≠ '<' := by
  simp [Text.referenceNames, IsSkipped, escapeChar, or_imp, forall_and]

lemma isSkipped_of_isSpecial (hc : IsSpecial c) : IsSkipped c := by
  rcases hc with rfl | rfl | rfl | rfl <;> simp [IsSkipped, escapeChar]

/-- A reference is passed over. -/
lemma skip_reference (h : ReadsReferences find replace) (hbefore : before ≠ some escapeChar)
    (hc : IsSpecial c) (t : Text) :
    ∃ behind', behind' ≠ some escapeChar ∧ passTree find replace before (escapeHtml (c :: t))
      = .text (Text.escapeHtmlChar c) ++ passTree find replace behind' (escapeHtml t) := by
  obtain ⟨name, hname, hreference⟩ := Text.escapeHtmlChar_of_special hc
  have hall := isSkipped_reference name hname
  have hangle : '<' ∉ '&' :: (name ++ [';']) ++ escapeHtml t := by
    rw [List.mem_append, not_or]
    exact ⟨fun hmem => (hall _ hmem).2 rfl, Text.notMem_escapeHtml (by decide) (by decide) t⟩
  refine ⟨behind before ('&' :: (name ++ [';'])), ?_, ?_⟩
  · exact behind_ne_escape_of_ne_nil _ (by simp) fun hmem => (hall _ hmem).1.2.1 rfl
  · rw [Text.escapeHtml_cons, hreference,
      h.skip_append hbefore (fun d hd => (hall d hd).1) hangle]

/-- Escaping leaves what holds no special character alone. -/
lemma expand_escapeHtml_eq_self (hm : m.Over (¬ IsSpecial ·)) :
    m.expand (Markup.text ∘ escapeHtml) = m :=
  Markup.expand_eq_self fun t ht =>
    congrArg Markup.text (Text.escapeHtml_eq_self (Markup.over_iff.1 hm t ht))

/-- What is found at a character that is not special is found in the escaped text as well. -/
lemma find_escapeHtml_append (h : ReadsReferences find replace) (hc : ¬ IsSpecial c) {a : α}
    {matched : Text} (hfind : find (c :: t) = some (a, matched)) :
    ∃ rest, c :: t = matched ++ rest ∧ escapeHtml matched = matched ∧
      find (matched ++ escapeHtml rest) = some (a, matched) := by
  obtain ⟨_, rest, hrest⟩ := h.search _ _ _ hfind
  have hself := Text.escapeHtml_eq_self (h.matched c t a matched hc hfind).1
  have hfind' := h.find_eq c t hc
  rw [hfind, hrest, Text.escapeHtml_append, hself] at hfind'
  exact ⟨rest, hrest, hself, hfind'⟩

/-- An occurrence is replaced in both texts or in neither. -/
lemma passTree_escapeHtml_found {a : α} {matched rest : Text} {before before' : Option Char}
    (hbefore : before = some escapeChar ↔ before' = some escapeChar) (hne : matched ≠ [])
    (hself : escapeHtml matched = matched) (hover : (replace a).Over (¬ IsSpecial ·))
    (hfind : find (matched ++ rest) = some (a, matched))
    (hfind' : find (matched ++ escapeHtml rest) = some (a, matched))
    (hrest : passTree find replace (behind before matched) (escapeHtml rest)
      = (passTree find replace (behind before matched) rest).expand (Markup.text ∘ escapeHtml)) :
    passTree find replace before' (escapeHtml (matched ++ rest))
      = (passTree find replace before (matched ++ rest)).expand (Markup.text ∘ escapeHtml) := by
  have hescaped : isEscaped before' matched = isEscaped before matched := by
    rw [isEscaped, isEscaped, Bool.eq_iff_iff]
    simp [hbefore]
  have hbehind : behind before' matched = behind before matched := by
    rw [behind_of_ne_nil _ hne, behind_of_ne_nil _ hne]
  rw [Text.escapeHtml_append, hself, passTree_append_found hfind' hne,
    passTree_append_found hfind hne, Markup.expand_append Text.escapeHtml_append, hescaped, hbehind,
    hrest]
  split_ifs
  · simp [hself]
  · rw [expand_escapeHtml_eq_self hover]

/-- **A pass over escaped text.**  It writes what it writes over the text, escaped. -/
theorem passTree_escapeHtml (h : ReadsReferences find replace) {before before' : Option Char}
    (hbefore : before = some escapeChar ↔ before' = some escapeChar) (ht : '<' ∉ t)
    (hfree : FreeSpecials before t) :
    passTree find replace before' (escapeHtml t)
      = (passTree find replace before t).expand (Markup.text ∘ escapeHtml) := by
  induction hn : t.length using Nat.strong_induction_on generalizing before before' t with
  | _ k ih =>
      cases t with
      | nil => simp
      | cons c t =>
          simp only [List.mem_cons, not_or] at ht
          by_cases hc : IsSpecial c
          · -- the reference is passed over, as the character is
            have hne : before ≠ some escapeChar := fun heq => hfree.1 heq hc
            have hskipped := isSkipped_of_isSpecial hc
            obtain ⟨behind', hbehind', hreference⟩ :=
              h.skip_reference (fun heq => hne (hbefore.2 heq)) hc t
            rw [hreference, h.skip before c t hne hskipped (by simpa using ht),
              Markup.expand_append Text.escapeHtml_append,
              ih t.length (by simp [← hn]) (by simpa [hbehind'] using hskipped.2.1) ht.2 hfree.2 rfl]
            simp [Text.escapeHtml_cons]
          · cases hfind : find (c :: t) with
            | none =>
                have hfind' := h.find_eq c t hc
                rw [hfind, Text.escapeHtml_cons_of_not_special hc] at hfind'
                rw [Text.escapeHtml_cons_of_not_special hc, passTree_cons hfind', passTree_cons hfind,
                  Markup.expand_append Text.escapeHtml_append,
                  ih t.length (by simp [← hn]) Iff.rfl ht.2 hfree.2 rfl]
                simp [Text.escapeHtml_cons_of_not_special hc]
            | some r =>
                obtain ⟨a, matched⟩ := r
                have hover := (h.matched c t a matched hc hfind).2
                have hne := (h.search _ _ _ hfind).1
                obtain ⟨rest, hrest, hself, hfind'⟩ := h.find_escapeHtml_append hc hfind
                have hlt : rest.length < k := by
                  have hpos := List.length_pos_iff.2 hne
                  rw [← hn, hrest, List.length_append]
                  omega
                have hangle : '<' ∉ rest := fun hmem => by
                  have hmem' : '<' ∈ c :: t := hrest ▸ List.mem_append_right _ hmem
                  simp [ht] at hmem'
                rw [hrest] at hfind hfree ⊢
                exact passTree_escapeHtml_found hbefore hne hself hover hfind hfind'
                  (ih rest.length hlt Iff.rfl hangle (freeSpecials_append.1 hfree).2 rfl)

/-- What a pass writes has no escape before a special character if the text has none. -/
lemma freeSpecials_passTree (h : ReadsReferences find replace) (hfree : FreeSpecials before t) :
    (passTree find replace before t).FreeSpecials before := by
  refine pass_induction h.search (motive := fun before t => FreeSpecials before t →
    (passTree find replace before t).FreeSpecials before) ?_ ?_ ?_ before t hfree
  · intro before _
    rw [passTree_nil]
    trivial
  · intro before c t hnone ih hfree
    rw [passTree_cons hnone, Markup.freeSpecials_text_append]
    exact ⟨⟨hfree.1, trivial⟩, ih hfree.2⟩
  · intro before matched t a hsome hne ih hfree
    obtain ⟨hmatched, ht⟩ := freeSpecials_append.1 hfree
    rw [passTree_append_found hsome hne]
    split_ifs with hescaped
    · exact Markup.freeSpecials_text_append.2 ⟨hmatched, ih ht⟩
    · obtain ⟨hesc, hbefore⟩ : escapeChar ∉ matched ∧ before ≠ some escapeChar := by
        simpa [isEscaped] using hescaped
      exact h.free _ a matched hsome hesc before _ hbefore ((ih ht).of_ne_escape (by simp))

end ReadsReferences

end Passes

lemma IsWordy.not_isSpecial (h : IsWordy c) : ¬ IsSpecial c := by
  have hmem : ∀ d : Char, isInner d = false ∧ isSeparator d = false → c ≠ d := by
    rintro d hd rfl
    exact notMem_of_isWordy (t := [c]) (by simpa using h) hd (List.mem_singleton_self c)
  simp only [IsSpecial, not_or]
  exact ⟨hmem _ (by decide), hmem _ (by decide), hmem _ (by decide), hmem _ (by decide)⟩

lemma not_isSpecial_ofSegments {segments : List Segment} (h : ∀ s ∈ segments, s.Over IsWordy) :
    (Markup.ofSegments .lenticular segments).Over (¬ IsSpecial ·) :=
  (Markup.over_ofSegments isWordy_lenticular.1 isWordy_lenticular.2 h).mono
    fun _ => IsWordy.not_isSpecial

namespace Form

variable {f : Form} {o : Occurrence}

lemma not_isSpecial_of_mem_write (hf : f = .standard ∨ f = .braced) (ho : o.IsInner) :
    ∀ c ∈ f.write o, ¬ IsSpecial c := by
  intro c hc
  have hmarks : ∀ c ∈ f.marks, ¬ IsSpecial c := by
    rcases hf with rfl | rfl <;> simp [standard, braced, marks, middle, IsSpecial]
  have hpart : c ∈ f.marks ∨ c ∈ o.word ∨ c ∈ o.gloss := by
    simp only [write, marks, List.mem_append, List.mem_cons] at hc ⊢
    tauto
  rcases hpart with h | h | h
  · exact hmarks c h
  · exact IsWordy.not_isSpecial (Or.inl (ho.word c h))
  · exact IsWordy.not_isSpecial (Or.inl (ho.gloss c h))

/-- A form is found in escaped text exactly where it is found in the text. -/
lemma find_escapeHtml (hf : f = .standard ∨ f = .braced) (t : Text) :
    f.find (escapeHtml t) = f.find t := by
  cases hfind : f.find t with
  | some r =>
      obtain ⟨o, matched⟩ := r
      obtain ⟨rfl, ho, rest, rfl⟩ := find_eq_some hfind
      rw [Text.escapeHtml_append, Text.escapeHtml_eq_self (not_isSpecial_of_mem_write hf ho),
        find_write_self hf ho]
  | none =>
      cases hfind' : f.find (escapeHtml t) with
      | none => rfl
      | some r =>
          obtain ⟨o, matched⟩ := r
          obtain ⟨rfl, ho, rest, hrest⟩ := find_eq_some hfind'
          have hreference : '&' ∉ f.write o := fun h =>
            not_isSpecial_of_mem_write hf ho _ h (Or.inl rfl)
          obtain ⟨u, rfl, _⟩ := Text.exists_append_of_escapeHtml hreference hrest
          rw [find_write_self hf ho] at hfind
          exact absurd hfind (by simp)

/-- **The pass of a standard form** passes references as it passes special characters. -/
theorem readsReferences (hf : f = .standard ∨ f = .braced) :
    ReadsReferences f.find (fun o => .ofSegments .lenticular (o.segments aligned)) where
  search := isSearch_find f
  skip := by
    intro before c t _ hc _
    refine passTree_cons (find_cons_of_ne ?_) before
    rw [(standard_marks hf).1]
    exact hc.2.2
  find_eq := fun c t _ => find_escapeHtml hf (c :: t)
  matched := by
    intro c t o matched _ hfind
    obtain ⟨rfl, ho, _⟩ := find_eq_some hfind
    exact ⟨not_isSpecial_of_mem_write hf ho,
      not_isSpecial_ofSegments (ho.segments_over_isWordy aligned)⟩
  free := by
    intro t o matched hfind _ before m hbefore hm
    exact Markup.freeSpecials_ofSegments_append
      ((find_eq_some hfind).2.1.segments_over_isWordy aligned) hbefore hm

end Form

namespace Brackets

variable {b : Brackets} {d : Detection}

lemma not_isSpecial_of_mem_write (hb : b = .lenticular ∨ b = .braces) (hd : b.IsWord d)
    (hboundary : ∀ c ∈ d.boundary, ¬ IsSpecial c) : ∀ c ∈ b.write d, ¬ IsSpecial c := by
  intro c hc
  have hglyphs : ¬ IsSpecial b.opening ∧ ¬ IsSpecial b.closing := by
    rcases hb with rfl | rfl <;> simp [lenticular, braces, IsSpecial]
  have hpart : c ∈ d.boundary ∨ c ∈ d.base ∨ c ∈ d.suffix ∨ c ∈ d.gloss ∨ c = b.opening ∨
      c = b.closing := by
    simp only [write, List.mem_append, List.mem_cons, List.not_mem_nil, or_false] at hc
    tauto
  rcases hpart with h | h | h | h | rfl | rfl
  · exact hboundary c h
  · exact (isWordy_of_isLogographic (hd.base c h)).not_isSpecial
  · exact (isWordy_of_kana (hd.suffix c h)).not_isSpecial
  · exact (isWordy_of_allowsInGloss (hd.gloss c h)).not_isSpecial
  · exact hglyphs.1
  · exact hglyphs.2

/-- A word is found in escaped text exactly where it is found in the text. -/
lemma findWord_escapeHtml (hb : b = .lenticular ∨ b = .braces) (boundary t : Text) :
    b.findWord boundary (escapeHtml t) = b.findWord boundary t := by
  obtain ⟨hreserved, _, hclosing, _⟩ := standard_glyphs hb
  have hopening : ¬ isLogographic b.opening ∧ ¬ isAnnotation b.opening :=
    ⟨not_isLogographic_opening hb, not_isAnnotation_of_mem_reserved hreserved⟩
  rw [findWord_boundary, findWord_boundary boundary t]
  refine congrArg (Option.map _) ?_
  cases hword : b.findWord [] t with
  | some r =>
      obtain ⟨d, matched⟩ := r
      obtain ⟨rfl, hboundary, hd, rest, rfl⟩ := findWord_eq_some hword
      have hplain := not_isSpecial_of_mem_write hb hd (by simp [hboundary])
      rw [Text.escapeHtml_append, Text.escapeHtml_eq_self hplain,
        findWord_write hd hboundary hopening hclosing]
  | none =>
      cases hword' : b.findWord [] (escapeHtml t) with
      | none => rfl
      | some r =>
          obtain ⟨d, matched⟩ := r
          obtain ⟨rfl, hboundary, hd, rest, hrest⟩ := findWord_eq_some hword'
          have hplain := not_isSpecial_of_mem_write hb hd (by simp [hboundary])
          obtain ⟨u, rfl, _⟩ := Text.exists_append_of_escapeHtml
            (fun h => hplain _ h (Or.inl rfl)) hrest
          rw [findWord_write hd hboundary hopening hclosing] at hword
          exact absurd hword (by simp)

/-- **The pass of a standard pair** passes references as it passes special characters. -/
theorem readsReferences (hb : b = .lenticular ∨ b = .braces) :
    ReadsReferences b.detect (Detection.tree aligned .lenticular) where
  search := isSearch_detect b
  skip := by
    intro before c t hbefore hc ht
    exact passTree_cons_of_not_logographic hbefore ne_angle_lenticular
      (not_isLogographic_of_ascii hc.1) ht
  find_eq := by
    intro c t hc
    have hcons := findWord_escapeHtml hb [] (c :: t)
    rw [Text.escapeHtml_cons_of_not_special hc] at hcons ⊢
    rw [detect, detect, hcons, findWord_escapeHtml hb]
  matched := by
    intro c t d matched hc hfind
    obtain ⟨rfl, hd, hboundary, rest, hrest⟩ := detect_eq_some hfind
    have hplain : ∀ e ∈ d.boundary, ¬ IsSpecial e := by
      rcases hboundary with hnil | ⟨e, he, _⟩
      · simp [hnil]
      · rw [write_append, he] at hrest
        obtain ⟨rfl, _⟩ := List.cons.inj hrest
        simpa [he] using hc
    exact ⟨not_isSpecial_of_mem_write hb hd hplain, Markup.over_append hplain
      (not_isSpecial_ofSegments (hd.segments_over_isWordy aligned))⟩
  free := by
    intro t d matched hfind hesc before m hbefore hm
    obtain ⟨rfl, hd, _⟩ := detect_eq_some hfind
    have hboundary : escapeChar ∉ d.boundary := fun h => hesc (by simp [write, h])
    rw [Detection.tree, Markup.append_assoc, Markup.freeSpecials_text_append]
    exact ⟨freeSpecials_of_notMem hbefore hboundary, Markup.freeSpecials_ofSegments_append
      (hd.segments_over_isWordy aligned) (behind_ne_escape hbefore hboundary) hm⟩

end Brackets

/-! ## One step after the other -/

/-- A step that writes of escaped text what it writes of the text, escaped. -/
structure Commutes (F : Text → Markup) : Prop where
  plain : ∀ t, '<' ∉ t → (F t).Over (· ≠ '<')
  free : ∀ t, FreeSpecials none t → (F t).FreeSpecials none
  escape : ∀ t, '<' ∉ t → FreeSpecials none t →
    F (escapeHtml t) = (F t).expand (Markup.text ∘ escapeHtml)

lemma ReadsReferences.commutes {α : Type} {find : Text → Option (α × Text)} {replace : α → Markup}
    (h : ReadsReferences find replace)
    (hover : ∀ t, '<' ∉ t → (passTree find replace none t).Over (· ≠ '<')) :
    Commutes (passTree find replace none) where
  plain := hover
  free := fun _ ht => h.freeSpecials_passTree ht
  escape := fun _ ht hfree => h.passTree_escapeHtml Iff.rfl ht hfree

lemma ne_angle_of_notMem (ht : '<' ∉ t) : ∀ c ∈ t, c ≠ '<' := fun _ hc heq => ht (heq ▸ hc)

lemma Form.commutes_tree {f : Form} (hf : f = .standard ∨ f = .braced) :
    Commutes (f.tree aligned .lenticular) :=
  (readsReferences hf).commutes fun _ ht =>
    over_tree ne_angle_lenticular.1 ne_angle_lenticular.2 (ne_angle_of_notMem ht)

lemma Brackets.commutes_tree {b : Brackets} (hb : b = .lenticular ∨ b = .braces) :
    Commutes (b.tree aligned .lenticular) :=
  (readsReferences hb).commutes fun _ ht =>
    over_tree ne_angle_lenticular.1 ne_angle_lenticular.2 (ne_angle_of_notMem ht)

lemma freeSpecials_unescape (ht : FreeSpecials before t) :
    FreeSpecials before (unescape .lenticular t) := by
  fun_induction unescape .lenticular t generalizing before with
  | case1 => trivial
  | case2 c => exact ht
  | case3 c d t h ih =>
      refine ih ⟨fun _ => ?_, ht.2.2⟩
      rcases h.2 with rfl | rfl
      · exact isWordy_lenticular.1.not_isSpecial
      · exact isWordy_lenticular.2.not_isSpecial
  | case4 c d t h ih => exact ⟨ht.1, ih ht.2⟩

lemma commutes_unescape : Commutes (Markup.text ∘ unescape .lenticular) where
  plain := fun t ht c hc => ne_angle_of_notMem ht c ((unescape_sublist _ t).subset hc)
  free := fun _ ht => freeSpecials_unescape ht
  escape := fun t _ _ => congrArg Markup.text
    (Text.unescape_escapeHtml isWordy_lenticular.1.not_isSpecial isWordy_lenticular.2.not_isSpecial t)

/-- Steps commute with escaping one after the other. -/
theorem Commutes.expand {F G : Text → Markup} (hF : Commutes F) (hG : Commutes G) :
    Commutes fun t => (F t).expand G where
  plain := fun t ht => Markup.over_expand
    (fun u (hu : ∀ c ∈ u, c ≠ '<') => hG.plain u fun hmem => hu _ hmem rfl) (hF.plain t ht)
  free := by
    intro t ht
    have hm := hF.free t ht
    generalize F t = m at hm
    induction m with
    | text u => exact hG.free u hm
    | element lead tag content rest ihc ihr =>
        exact Markup.freeSpecials_append_element.2 ⟨hG.free lead hm.1, ihc hm.2.1, ihr hm.2.2⟩
  escape := by
    intro t ht hfree
    have htexts := Markup.over_iff.1 (hF.plain t ht)
    rw [hF.escape t ht hfree, Markup.expand_expand, Markup.expand_expand]
    exact Markup.expand_congr fun u hu =>
      hG.escape u (fun hmem => htexts u hu _ hmem rfl) ((hF.free t hfree).texts u hu)

/-! ## The conversion -/

/-- The standard conversion commutes with escaping. -/
lemma commutes_standard (aligned : Bool) :
    Commutes fun t => (explicitTree aligned t).expand (detectedTree aligned) :=
  ((Form.commutes_tree (Or.inl rfl)).expand (Form.commutes_tree (Or.inr rfl))).expand
    ((Brackets.commutes_tree (Or.inl rfl)).expand
      ((Brackets.commutes_tree (Or.inr rfl)).expand commutes_unescape))

/-- The annotations of the standard conversion hold words and glosses. -/
lemma rubies_standard (aligned : Bool) (t : Text) :
    ∀ c ∈ ((explicitTree aligned t).expand (detectedTree aligned)).rubies, c.Over IsWordy := by
  have hunescape : ∀ u, (∀ c ∈ u, IsWordy c) →
      ((Markup.text ∘ unescape .lenticular) u).Over IsWordy :=
    fun u hu c hc => hu c ((unescape_sublist _ u).subset hc)
  have hbraces : ∀ u, (∀ c ∈ u, IsWordy c) → (bracesTree aligned u).Over IsWordy := fun u hu =>
    Markup.over_expand hunescape
      (Brackets.over_tree isWordy_lenticular.1 isWordy_lenticular.2 hu)
  have hdetected : ∀ u, (∀ c ∈ u, IsWordy c) → (detectedTree aligned u).Over IsWordy := fun u hu =>
    Markup.over_expand hbraces
      (Brackets.over_tree isWordy_lenticular.1 isWordy_lenticular.2 hu)
  refine Markup.rubies_over_expand ?_ fun c hc =>
    Markup.over_expand hdetected (rubies_explicitTree aligned t c hc)
  refine fun u => Markup.rubies_over_expand ?_ fun c hc =>
    Markup.over_expand hbraces (Brackets.rubies_tree _ _ _ c hc)
  refine fun u => Markup.rubies_over_expand ?_ fun c hc =>
    Markup.over_expand hunescape (Brackets.rubies_tree _ _ _ c hc)
  exact fun u => by simp [Markup.rubies]

/-- **Conversion of escaped text.**  For every text without `<` in which no escape stands directly
before a special character, what a shared engine returns with the standard options for the escaped
text is what it returns for the text, with the text between the tags escaped.  The annotations are the
same, inside and in order. -/
theorem Engine.render_escapeHtml {e : Engine} (he : e.Reachable) (aligned : Bool) {t : Text}
    (ht : '<' ∉ t) (hfree : FreeSpecials none t) :
    ∃ m n, Reads (e.render (Options.standardWith aligned) t).1 m ∧
      Reads (e.render (Options.standardWith aligned) (escapeHtml t)).1 n ∧
      n = m.expand (Markup.text ∘ escapeHtml) ∧ n.rubies = m.rubies := by
  have hplain := reads_standard ht aligned
  have hescaped := reads_standard (Text.notMem_escapeHtml (by decide) (by decide) t) aligned
  have htree := (commutes_standard aligned).escape t ht hfree
  rw [← he.render_eq] at hplain hescaped
  refine ⟨_, _, hplain, hescaped, htree, ?_⟩
  rw [htree, Markup.rubies_expand_text]
  refine (List.map_congr_left fun c hc => ?_).trans (List.map_id _)
  exact ReadsReferences.expand_escapeHtml_eq_self
    ((rubies_standard aligned t c hc).mono fun _ => IsWordy.not_isSpecial)

/-- Special characters around words, one of them directly before a word and one behind an escaped
word. -/
theorem Engine.render_escapeHtml_around_words :
    ∃ t, t = "\"[食べ物]^(たべもの)&明日【あす】>\\今日【きょう】\"".toList ∧
      '<' ∉ t ∧ FreeSpecials none t ∧
      ∃ m n, Reads (fresh.render (Options.standardWith true) t).1 m ∧
        Reads (fresh.render (Options.standardWith true) (escapeHtml t)).1 n ∧
        n = m.expand (Markup.text ∘ escapeHtml) ∧ n.rubies = m.rubies := by
  have ht : '<' ∉ "\"[食べ物]^(たべもの)&明日【あす】>\\今日【きょう】\"".toList := by decide
  have hfree : FreeSpecials none "\"[食べ物]^(たべもの)&明日【あす】>\\今日【きょう】\"".toList := by
    simp [FreeSpecials, escapeChar, IsSpecial]
  exact ⟨_, rfl, ht, hfree, render_escapeHtml Reachable.fresh true ht hfree⟩

/-- An escape before a special character guards the word behind it, but not behind the reference. -/
theorem Engine.render_escapeHtml_behind_escape :
    ∃ t m n, t = "\\>明日【あす】".toList ∧ '<' ∉ t ∧
      Reads (fresh.render (Options.standardWith true) t).1 m ∧
      Reads (fresh.render (Options.standardWith true) (escapeHtml t)).1 n ∧
      m.rubies.length = 0 ∧ n.rubies.length = 1 ∧ n.rubies ≠ m.rubies := by
  let m : Markup := .text "\\>明日【あす】".toList
  let n : Markup := .text "\\&gt;".toList ++ .ofSegments .lenticular [.ruby ['明', '日'] ['あ', 'す']]
  refine ⟨_, m, n, rfl, by decide, ⟨?_, by decide +kernel⟩, ⟨?_, by decide +kernel⟩, by decide,
    by decide, by decide⟩
  · simp [m, Markup.Over]
  · simp [n, Markup.ofSegments, Markup.ofSegment, Markup.Over, ne_angle_lenticular]

end Furigana
