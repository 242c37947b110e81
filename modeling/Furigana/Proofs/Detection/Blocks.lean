import Mathlib
import Furigana.Proofs.Conservation

/-!
# Blocks

A detected word is searched for together with the character in front of it, which an earlier word
may have used up already.  None of that shows in the result.  A block is a whole run of ideographs,
the kana behind it and a gloss; a pass converts every block with no escape among the two characters
in front of it, and leaves everything else.

* `Encloses` — the pairs whose glyphs cannot be part of a word or a gloss;
* `IsBlock`, `IsBlock.eq_or_disjoint` — the blocks of a text, no two of which overlap;
* `CutsBlocks` — a text cut at its blocks, where each says whether an escape guards it;
* `Piece.release`, `cutsBlocks_scan` — a scan, with the characters in front of its words set free,
  cuts a text so;
* **`apply_blocks`** — a pass rewrites the blocks of a text and nothing else.
-/

namespace Furigana

/-- The last character of a text and the one before it. -/
lemma mem_rtake_two_concat {c e : Char} {t : Text} :
    c ∈ (t ++ [e]).rtake 2 ↔ c = e ∨ t.getLast? = some c := by
  rw [List.rtake_concat_succ]
  rcases List.eq_nil_or_concat' t with rfl | ⟨u, d, rfl⟩
  · simp
  · rw [List.rtake_concat_succ]
    simp [or_comm, eq_comm]

lemma mem_rtake_two_of_getLast? {c : Char} {t : Text} (h : t.getLast? = some c) :
    c ∈ t.rtake 2 := by
  rcases List.eq_nil_or_concat' t with rfl | ⟨u, e, rfl⟩
  · simp at h
  · rw [List.getLast?_concat] at h
    exact mem_rtake_two_concat.2 (Or.inl (Option.some.inj h).symm)

namespace Brackets

variable {b : Brackets} {d d' : Detection} {t u u' v v' w : Text}

lemma not_allowsInGloss_escape (b : Brackets) : ¬ b.allowsInGloss escapeChar := by
  simp [allowsInGloss, escapeChar, isAsciiWord, Text.isAsciiAlphanumeric, isSeparator, separators]

/-- A pair of two glyphs that are neither part of a word nor of a gloss, nor the escape. -/
@[mk_iff] structure Encloses (b : Brackets) : Prop where
  distinct : b.opening ≠ b.closing
  logographic : ∀ c ∈ b.toText, ¬ isLogographic c
  annotation : ∀ c ∈ b.toText, ¬ isAnnotation c
  separator : ∀ c ∈ b.toText, ¬ isSeparator c
  asciiWord : ∀ c ∈ b.toText, ¬ isAsciiWord c
  escape : escapeChar ∉ b.toText

namespace Encloses

lemma not_allowsInGloss (hb : b.Encloses) {c : Char} (hc : c ∈ b.toText) :
    ¬ b.allowsInGloss c := by
  rw [allowsInGloss_glyph_iff hc, not_or]
  exact ⟨hb.asciiWord c hc, hb.separator c hc⟩

/-- Up to its gloss a block holds neither of the two glyphs. -/
lemma notMem_base_suffix (hb : b.Encloses) (hd : b.IsWord d) {c : Char} (hc : c ∈ b.toText) :
    c ∉ d.base ++ d.suffix := by
  intro hmem
  rcases List.mem_append.1 hmem with hbase | hsuffix
  · exact hb.logographic c hc (hd.base c hbase)
  · exact hb.annotation c hc (hd.suffix c hsuffix)

lemma opening_notMem_gloss (hb : b.Encloses) (hd : b.IsWord d) :
    b.opening ∉ d.gloss ++ [b.closing] := by
  intro hmem
  rcases List.mem_append.1 hmem with hgloss | hclosing
  · exact hb.not_allowsInGloss (by simp [toText]) (hd.gloss _ hgloss)
  · exact hb.distinct (by simpa using hclosing)

lemma escape_ne_glyphs (hb : b.Encloses) : escapeChar ≠ b.opening ∧ escapeChar ≠ b.closing := by
  simpa [toText] using hb.escape

/-- A block holds no escape. -/
lemma escape_notMem_write (hb : b.Encloses) (hd : b.IsWord d) (hboundary : d.boundary = []) :
    escapeChar ∉ b.write d := by
  have hascii : escapeChar ≤ '\x7f' := by decide
  have hbase : escapeChar ∉ d.base := fun h => not_isLogographic_of_ascii hascii (hd.base _ h)
  have hsuffix : escapeChar ∉ d.suffix := fun h =>
    not_isAnnotation_of_ascii hascii (hd.suffix _ h)
  have hgloss : escapeChar ∉ d.gloss := fun h => not_allowsInGloss_escape b (hd.gloss _ h)
  simp [write, hboundary, hbase, hsuffix, hgloss, hb.escape_ne_glyphs]

/-- A block is found where it begins. -/
lemma findWord_write (hb : b.Encloses) (hd : b.IsWord d) (hboundary : d.boundary = []) (t : Text) :
    b.findWord [] (b.write d ++ t) = some (d, b.write d) :=
  Brackets.findWord_write hd hboundary
    ⟨hb.logographic _ (by simp [toText]), hb.annotation _ (by simp [toText])⟩
    (hb.not_allowsInGloss (by simp [toText]))

end Encloses

/-! ## The blocks of a text -/

/-- A block of the text `t`, with what stands before and after it. -/
structure IsBlock (b : Brackets) (t before : Text) (d : Detection) (after : Text) : Prop where
  text : t = before ++ b.write d ++ after
  word : b.IsWord d
  boundary : d.boundary = []
  -- The kana are a whole run too, because an ideograph stands in front of them.
  whole : ∀ c ∈ before.getLast?, ¬ isLogographic c

/-- A block begins with an ideograph. -/
lemma not_isBlock_of_not_logographic {c : Char} (hc : ¬ isLogographic c) :
    ¬ b.IsBlock (w ++ c :: t) w d v := by
  intro h
  obtain ⟨e, base, hbase⟩ := List.exists_cons_of_ne_nil h.word.base_ne
  have htext := h.text
  rw [List.append_assoc, List.append_cancel_left_eq, write_append, h.boundary, hbase] at htext
  obtain ⟨rfl, _⟩ := List.cons.inj htext
  exact hc (h.word.base c (by simp [hbase]))

/-- In front of the gloss of a word no other run of ideographs begins. -/
lemma eq_nil_of_append_base {base suffix m base' rest : Text} (hbase : ∀ c ∈ base, isLogographic c)
    (hsuffix : ∀ c ∈ suffix, isAnnotation c) (hbase' : ∀ c ∈ base', isLogographic c)
    (hne : base' ≠ []) (hm : ∀ c ∈ m.getLast?, ¬ isLogographic c)
    (h : base ++ suffix = m ++ (base' ++ rest)) : m = [] := by
  obtain ⟨c, base', rfl⟩ := List.exists_cons_of_ne_nil hne
  rcases List.append_eq_append_iff.1 h with ⟨k, rfl, hk⟩ | ⟨k, rfl, _⟩
  · -- the other run would begin in the kana
    have hkana := hsuffix c (by simp [hk])
    exact absurd (hbase' c (by simp)) <| not_isLogographic_of_isAnnotation hkana
  · rcases List.eq_nil_or_concat' m with rfl | ⟨m, e, rfl⟩
    · rfl
    · exact absurd (hbase e (by simp)) (hm e (by simp))

/-- A block that begins behind the start of another one begins behind its end. -/
lemma write_prefix_of_append_eq (hb : b.Encloses) (hd : b.IsWord d) (hboundary : d.boundary = [])
    (hd' : b.IsWord d') (hboundary' : d'.boundary = []) {m : Text} (hne : m ≠ [])
    (hm : ∀ c ∈ m.getLast?, ¬ isLogographic c)
    (h : b.write d ++ v = m ++ (b.write d' ++ v')) : b.write d <+: m := by
  rw [write_append, write_append, hboundary, hboundary', List.nil_append, List.nil_append,
    ← List.append_assoc, ← List.append_assoc d'.base, ← List.append_assoc m] at h
  obtain ⟨x, hx, hgloss⟩ :=
    exists_append_of_notMem (hb.notMem_base_suffix hd (by simp [toText])) h
  cases x with
  | nil =>
      -- both openings are the same glyph of the text
      rw [List.append_nil] at hx
      exact absurd (eq_nil_of_append_base hd.base hd.suffix hd'.base hd'.base_ne hm hx.symm) hne
  | cons e x =>
      obtain ⟨rfl, htail⟩ := List.cons.inj hgloss
      rw [List.append_cons d.gloss] at htail
      obtain ⟨x, rfl, -⟩ := exists_append_of_notMem (hb.opening_notMem_gloss hd) htail
      -- the closing glyph stands in `m`, because what follows `m` up to the opening holds none
      have hclosed : m ++ (d'.base ++ d'.suffix)
          = d.base ++ d.suffix ++ b.opening :: d.gloss ++ b.closing :: x := by simp [hx]
      obtain ⟨k, rfl, _⟩ :=
        exists_cons_of_notMem (hb.notMem_base_suffix hd' (by simp [toText])) hclosed
      exact ⟨k, by simp [write, hboundary]⟩

namespace IsBlock

/-- At one place only one block begins. -/
lemma eq_of_before_eq (hb : b.Encloses) (h : b.IsBlock t u d v) (h' : b.IsBlock t u d' v') :
    d = d' ∧ v = v' := by
  have htext := h.text.symm.trans h'.text
  rw [List.append_assoc, List.append_assoc, List.append_cancel_left_eq] at htext
  have hfound := hb.findWord_write h.word h.boundary v
  rw [htext, hb.findWord_write h'.word h'.boundary] at hfound
  obtain rfl : d' = d := congrArg Prod.fst (Option.some.inj hfound)
  exact ⟨rfl, List.append_cancel_left htext⟩

lemma eq_or_prefix (hb : b.Encloses) (h : b.IsBlock t u d v) {m : Text}
    (h' : b.IsBlock t (u ++ m) d' v') : m = [] ∨ b.write d <+: m := by
  rcases eq_or_ne m [] with hm | hm
  · exact Or.inl hm
  have htext : b.write d ++ v = m ++ (b.write d' ++ v') := by
    simpa only [List.append_assoc, List.append_cancel_left_eq] using h.text.symm.trans h'.text
  have hwhole : ∀ c ∈ m.getLast?, ¬ isLogographic c := by
    intro c hc
    exact h'.whole c (by rw [List.getLast?_append]; simp [Option.mem_def.1 hc])
  exact Or.inr (write_prefix_of_append_eq hb h.word h.boundary h'.word h'.boundary hm hwhole htext)

/-- **No two blocks overlap**: one ends before the other one begins. -/
theorem eq_or_disjoint (hb : b.Encloses) (h : b.IsBlock t u d v) (h' : b.IsBlock t u' d' v') :
    (u = u' ∧ d = d' ∧ v = v') ∨ u ++ b.write d <+: u' ∨ u' ++ b.write d' <+: u := by
  have hu : u <+: t := ⟨_, by rw [h.text, List.append_assoc]⟩
  have hu' : u' <+: t := ⟨_, by rw [h'.text, List.append_assoc]⟩
  rcases List.prefix_or_prefix_of_prefix hu hu' with ⟨m, rfl⟩ | ⟨m, rfl⟩
  · rcases h.eq_or_prefix hb h' with rfl | hm
    · rw [List.append_nil] at h' ⊢
      exact Or.inl ⟨rfl, h.eq_of_before_eq hb h'⟩
    · exact Or.inr (Or.inl ((List.prefix_append_right_inj u).2 hm))
  · rcases h'.eq_or_prefix hb h with rfl | hm
    · rw [List.append_nil] at h ⊢
      exact Or.inl ⟨rfl, h.eq_of_before_eq hb h'⟩
    · exact Or.inr (Or.inr ((List.prefix_append_right_inj u').2 hm))

end IsBlock

end Brackets

/-! ## A text cut at its blocks -/

/-- Whether a piece of the text `t` that is an occurrence is a block, and says whether an escape is
one of the two characters before it. -/
def Piece.MarksBlock (b : Brackets) (t before after : Text) : Piece Detection → Prop
  | .plain _ => True
  | .found escaped matched d => matched = b.write d ∧ b.IsBlock t before d after ∧
      (escaped = true ↔ escapeChar ∈ before.rtake 2)

namespace Brackets

variable {b : Brackets} {d : Detection} {t w : Text} {pieces : List (Piece Detection)}

/-- The text `t` behind `w`, cut into its blocks and the characters between them: whatever occurrence
is among the pieces is a block, and every block is among them. -/
structure CutsBlocks (b : Brackets) (w t : Text) (pieces : List (Piece Detection)) : Prop where
  text : pieces.flatMap Piece.text = t
  marks : ∀ front piece rest, pieces = front ++ piece :: rest →
    piece.MarksBlock b (w ++ t) (w ++ front.flatMap Piece.text) (rest.flatMap Piece.text)
  complete : ∀ u d v, b.IsBlock (w ++ t) (w ++ u) d v → ∃ front escaped rest,
    pieces = front ++ .found escaped (b.write d) d :: rest ∧ front.flatMap Piece.text = u

namespace CutsBlocks

lemma nil (b : Brackets) (w : Text) : b.CutsBlocks w [] [] where
  text := rfl
  marks front piece rest h := absurd h (by simp)
  complete u d v h := by
    have hlength := congrArg List.length h.text
    have hne := List.length_pos_iff.2 (write_ne_nil b d)
    simp only [List.length_append, List.length_nil] at hlength
    omega

/-- A character at which no block begins. -/
lemma cons_plain {c : Char} (hc : ∀ d v, ¬ b.IsBlock (w ++ c :: t) w d v)
    (h : b.CutsBlocks (w ++ [c]) t pieces) : b.CutsBlocks w (c :: t) (.plain c :: pieces) where
  text := by rw [List.flatMap_cons, h.text]; rfl
  marks := by
    refine forall_split_cons trivial fun front piece rest hsplit => ?_
    simpa [Piece.text] using h.marks front piece rest hsplit
  complete u d v hblock := by
    cases u with
    | nil =>
        rw [List.append_nil] at hblock
        exact absurd hblock (hc d v)
    | cons e u =>
        have htext := hblock.text
        rw [List.append_assoc, List.append_assoc, List.append_cancel_left_eq] at htext
        obtain ⟨rfl, _⟩ := List.cons.inj htext
        rw [List.append_cons w c u, List.append_cons w c t] at hblock
        obtain ⟨front, escaped, rest, rfl, rfl⟩ := h.complete u d v hblock
        exact ⟨.plain c :: front, escaped, rest, rfl, rfl⟩

/-- Characters at which no block begins because they are no ideographs. -/
lemma append_plain {u : Text} (hu : ∀ c ∈ u, ¬ isLogographic c)
    (h : b.CutsBlocks (w ++ u) t pieces) :
    b.CutsBlocks w (u ++ t) (u.map .plain ++ pieces) := by
  induction u generalizing w with
  | nil => simpa using h
  | cons c u ih =>
      rw [List.append_cons] at h
      exact cons_plain (fun d v => not_isBlock_of_not_logographic (hu c (by simp)))
        (ih (fun e he => hu e (List.mem_cons_of_mem c he)) h)

/-- A block. -/
lemma cons_found (hb : b.Encloses) (hblock : b.IsBlock (w ++ (b.write d ++ t)) w d t)
    {escaped : Bool} (hescaped : escaped = true ↔ escapeChar ∈ w.rtake 2)
    (h : b.CutsBlocks (w ++ b.write d) t pieces) :
    b.CutsBlocks w (b.write d ++ t) (.found escaped (b.write d) d :: pieces) where
  text := by rw [List.flatMap_cons, h.text]; rfl
  marks := by
    refine forall_split_cons ?_ fun front piece rest hsplit => ?_
    · rw [h.text]
      exact ⟨rfl, by simpa using hblock, by simpa using hescaped⟩
    · simpa [Piece.text] using h.marks front piece rest hsplit
  complete u d' v hblock' := by
    rcases hblock.eq_or_prefix hb hblock' with rfl | ⟨u, rfl⟩
    · rw [List.append_nil] at hblock'
      obtain ⟨rfl, _⟩ := hblock.eq_of_before_eq hb hblock'
      exact ⟨[], escaped, pieces, rfl, rfl⟩
    · rw [← List.append_assoc, ← List.append_assoc] at hblock'
      obtain ⟨front, escaped', rest, rfl, rfl⟩ := h.complete u d' v hblock'
      exact ⟨.found escaped (b.write d) d :: front, escaped', rest, rfl, rfl⟩

end CutsBlocks

end Brackets

/-! ## A scan cuts at the blocks -/

/-- An occurrence without the character in front of it, which is set free. -/
def Piece.release : Piece Detection → List (Piece Detection)
  | .plain c => [.plain c]
  | .found escaped matched d => d.boundary.map .plain ++
      [.found escaped (matched.drop d.boundary.length) { d with boundary := [] }]

namespace Brackets

variable {b : Brackets} {d : Detection} {t w : Text}

/-- The invariant of a scan that has come from `w` to `t`: a word that is found right here, with no
character in front of it, has a whole run as base and is not guarded. -/
def Ready (b : Brackets) (w t : Text) : Prop :=
  b.findWord [] t ≠ none →
    (∀ c ∈ w.getLast?, ¬ isLogographic c) ∧ escapeChar ∉ w.rtake 2

/-- Where nothing is found, nothing is found with one character less of a base. -/
lemma findWord_eq_none_of_detect_cons {c : Char} (h : b.detect (c :: t) = none) :
    b.findWord [] t = none := by
  rw [detect] at h
  split_ifs at h with hc
  · by_contra hword
    obtain ⟨⟨d, matched⟩, hword⟩ := Option.ne_none_iff_exists'.1 hword
    obtain ⟨r, hrun, _⟩ := Option.map_eq_some_iff.1 hword
    obtain ⟨_, hbase, rest, rfl, hrest, _⟩ := runThen_eq_some hrun
    rw [findWord, Option.map_eq_none_iff] at h
    rw [runThen_eq_none (x := c :: r.1) h rfl (by simp)
      (by simpa using ⟨hc, hbase⟩)] at hrest
    exact absurd hrest (by simp)
  · rw [findWord_boundary, Option.map_eq_none_iff] at h
    exact h

/-- Behind a word the search is ready again. -/
lemma ready_append_write (hb : b.Encloses) (hd : b.IsWord d) (w t : Text) :
    b.Ready (w ++ b.write d) t := by
  intro _
  obtain ⟨gloss, c, hgloss⟩ := (List.eq_nil_or_concat' d.gloss).resolve_left hd.gloss_ne
  have hwrite : w ++ b.write d
      = w ++ (d.boundary ++ d.base ++ d.suffix ++ b.opening :: gloss) ++ [c] ++ [b.closing] := by
    simp [write, hgloss]
  have hc : c ≠ escapeChar := fun h =>
    not_allowsInGloss_escape b (h ▸ hd.gloss c (by simp [hgloss]))
  rw [hwrite, mem_rtake_two_concat, List.getLast?_concat, List.getLast?_concat]
  refine ⟨?_, ?_⟩
  · simpa using hb.logographic b.closing (by simp [toText])
  · simp [hb.escape_ne_glyphs.2, hc]

section Front

variable (hb : b.Encloses) (hd : b.IsWord d)
  (hboundary : d.boundary = [] ∨ ∃ c, d.boundary = [c] ∧ ¬ isLogographic c)
  (h : b.Ready w (b.write d ++ t))

include hb hd hboundary h

/-- Where the search is ready, no ideograph stands in front of the base that it finds. -/
lemma Ready.whole : ∀ c ∈ (w ++ d.boundary).getLast?, ¬ isLogographic c := by
  rcases hboundary with hnil | ⟨e, he, hlog⟩
  · have hfound : b.findWord [] (b.write d ++ t) ≠ none := by simp [hb.findWord_write hd hnil]
    rw [hnil, List.append_nil]
    exact (h hfound).1
  · simpa [he] using hlog

/-- The escapes that guard what is found are those among the two characters in front of its base. -/
lemma Ready.isEscaped_iff :
    isEscaped w.getLast? (b.write d) = true ↔ escapeChar ∈ (w ++ d.boundary).rtake 2 := by
  have hfree : escapeChar ∉ b.write { d with boundary := [] } :=
    hb.escape_notMem_write (hd.withBoundary []) rfl
  rw [isEscaped, write_eq_boundary_append]
  rcases hboundary with hnil | ⟨e, he, _⟩
  · have hfound : b.findWord [] (b.write d ++ t) ≠ none := by simp [hb.findWord_write hd hnil]
    have hlast : w.getLast? ≠ some escapeChar := fun hlast =>
      (h hfound).2 (mem_rtake_two_of_getLast? hlast)
    simp [hnil, hfree, hlast, (h hfound).2]
  · rw [he, mem_rtake_two_concat]
    simp [hfree]

end Front

/-- **A scan cuts a text at its blocks**, once the characters in front of its words are set free. -/
theorem cutsBlocks_scan (hb : b.Encloses) (t : Text) :
    b.CutsBlocks [] t ((b.scan t).flatMap Piece.release) := by
  let motive (before : Option Char) (t : Text) : Prop := ∀ w, w.getLast? = before → b.Ready w t →
    b.CutsBlocks w t ((Furigana.scan b.detect before t).flatMap Piece.release)
  refine pass_induction (isSearch_detect b) (motive := motive) ?_ ?_ ?_ none t [] rfl
    (by simp [Ready])
  · intro before w _ _
    rw [scan_nil]
    exact CutsBlocks.nil b w
  · intro before c t hnone ih w _ _
    rw [scan_cons hnone]
    refine CutsBlocks.cons_plain (fun d v hblock => ?_)
      (ih (w ++ [c]) (by simp) fun hword => absurd (findWord_eq_none_of_detect_cons hnone) hword)
    have htext := hblock.text
    rw [List.append_assoc, List.append_cancel_left_eq] at htext
    have hfound := detect_of_findWord (hb.findWord_write hblock.word hblock.boundary v)
    rw [← htext, hnone] at hfound
    exact absurd hfound (by simp)
  · rintro _ matched t d hsome hne ih w rfl hready
    obtain ⟨rfl, hd, hboundary, _⟩ := detect_eq_some hsome
    have hplain : ∀ c ∈ d.boundary, ¬ isLogographic c := by
      rcases hboundary with hnil | ⟨e, he, hlog⟩
      · simp [hnil]
      · simpa [he] using hlog
    have hlast : (w ++ b.write d).getLast? = behind w.getLast? (b.write d) := List.getLast?_append
    have hrest := ih (w ++ b.write d) hlast (ready_append_write hb hd w t)
    have hescaped := hready.isEscaped_iff hb hd hboundary
    have hwhole := hready.whole hb hd hboundary
    rw [scan_append_found hsome hne, List.flatMap_cons, Piece.release, write_eq_boundary_append,
      List.drop_left, List.append_assoc, List.append_assoc, List.singleton_append]
    rw [write_eq_boundary_append, ← List.append_assoc] at hrest
    refine CutsBlocks.append_plain hplain (CutsBlocks.cons_found hb ?_ ?_ hrest)
    · exact ⟨by simp, hd.withBoundary [], rfl, hwhole⟩
    · rwa [← write_eq_boundary_append]

/-! ## What a pass leaves -/

variable {aligned : Bool} {fallback : Brackets}

/-- The character in front of a word stays, so it may as well be set free. -/
lemma rewrite_release {pieces : List (Piece Detection)}
    (h : ∀ escaped matched d, .found escaped matched d ∈ pieces → matched = b.write d) :
    rewrite (replacement aligned fallback) pieces
      = rewrite (fun d => fallback.markup (d.segments aligned))
        (pieces.flatMap Piece.release) := by
  induction pieces with
  | nil => rfl
  | cons piece pieces ih =>
      have hrest := ih fun escaped matched d hmem =>
        h escaped matched d (List.mem_cons_of_mem _ hmem)
      rw [← List.singleton_append, rewrite_append, hrest, List.flatMap_append, rewrite_append,
        List.flatMap_singleton]
      congr 1
      cases piece with
      | plain c => rfl
      | found escaped matched d =>
          obtain rfl := h escaped matched d (by simp)
          rw [Piece.release, rewrite_append, rewrite_map_plain, write_eq_boundary_append,
            List.drop_left]
          cases escaped <;> simp [rewrite, replacement, Detection.segments]

lemma apply_eq_rewrite_release (b : Brackets) (aligned : Bool) (fallback : Brackets) (t : Text) :
    b.apply aligned fallback t = rewrite (fun d => fallback.markup (d.segments aligned))
      ((b.scan t).flatMap Piece.release) := by
  refine rewrite_release (b := b) fun escaped matched d hmem => ?_
  obtain ⟨rest, hfind⟩ := (scans_scan (isSearch_detect b) none t).exists_find_eq_some hmem
  exact (detect_eq_some hfind).1

/-- **Detection is rewriting block by block.**  No two blocks of a text overlap.  A pass leaves the
text in which every block without an escape among the two characters in front of it is replaced by
its annotation, and in which everything else is as it was. -/
theorem apply_blocks (hb : b.Encloses) (t : Text) :
    (∀ u d v u' d' v', b.IsBlock t u d v → b.IsBlock t u' d' v' →
      (u = u' ∧ d = d' ∧ v = v') ∨ u ++ b.write d <+: u' ∨ u' ++ b.write d' <+: u) ∧
    ∃ pieces, b.CutsBlocks [] t pieces ∧ ∀ aligned fallback,
      b.apply aligned fallback t
        = rewrite (fun d => fallback.markup (d.segments aligned)) pieces :=
  ⟨fun _ _ _ _ _ _ h h' => h.eq_or_disjoint hb h', (b.scan t).flatMap Piece.release,
    cutsBlocks_scan hb t, fun aligned fallback => apply_eq_rewrite_release b aligned fallback t⟩

/-- Blocks that follow each other with nothing between, one at the start of the text, one with an
escape two characters in front of it, and one with an ideograph in its gloss. -/
theorem apply_blocks_adjacent :
    ∃ (b : Brackets) (t : Text), b = lenticular ∧ b.Encloses ∧
      t = "明日【あす】食べる【たべる】\\・漢【かん】字【じ本】".toList ∧
      b.apply true b t = "<ruby>明日<rp>【</rp><rt>あす</rt><rp>】</rp></ruby>".toList
        ++ "<ruby>食<rp>【</rp><rt>た</rt><rp>】</rp></ruby>べる\\・漢【かん】".toList
        ++ "<ruby>字<rp>【</rp><rt>じ本</rt><rp>】</rp></ruby>".toList ∧
      (∀ u d v u' d' v', b.IsBlock t u d v → b.IsBlock t u' d' v' →
        (u = u' ∧ d = d' ∧ v = v') ∨ u ++ b.write d <+: u' ∨ u' ++ b.write d' <+: u) ∧
      ∃ pieces, b.CutsBlocks [] t pieces ∧ ∀ aligned fallback,
        b.apply aligned fallback t
          = rewrite (fun d => fallback.markup (d.segments aligned)) pieces := by
  let t : Text := "明日【あす】食べる【たべる】\\・漢【かん】字【じ本】".toList
  have hb : lenticular.Encloses := by
    rw [encloses_iff, toText]
    simp only [List.forall_mem_cons, List.not_mem_nil, false_imp_iff, implies_true]
    decide
  have happly : lenticular.apply true lenticular t
      = "<ruby>明日<rp>【</rp><rt>あす</rt><rp>】</rp></ruby>".toList
        ++ "<ruby>食<rp>【</rp><rt>た</rt><rp>】</rp></ruby>べる\\・漢【かん】".toList
        ++ "<ruby>字<rp>【</rp><rt>じ本</rt><rp>】</rp></ruby>".toList := by decide +kernel
  exact ⟨lenticular, t, rfl, hb, rfl, happly, apply_blocks hb t⟩

end Brackets

end Furigana
