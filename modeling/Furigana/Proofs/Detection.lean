import Mathlib
import Furigana.Detection
import Furigana.Proofs.Scan

/-!
# Searching for glossed words

What `Brackets.detect` finds, and where it finds nothing.

* `detect_eq_some` — whatever is found is a written word, with at most one character in front of it;
* `findWord_write` — a written word is found as it was written;
* `detect_append_cons` — a character that a word cannot hold separates what is before it from what
  is behind it;
* `Continues` — whether a word that has begun can go on; where it cannot, nothing is found;
* `pass_cons_of_not_logographic` — the character in front of a word stays, so that a pass may as
  well start behind it.
-/

namespace Furigana

/-! ## Ideographs and kana -/

lemma isLogographic_iff {c : Char} :
    isLogographic c ↔ 0x4e00 ≤ c.val.toNat ∧ c.val.toNat ≤ 0x9faf := by
  simp only [isLogographic, logographicRanges, CharRange.contains, List.any_cons, List.any_nil,
    Bool.or_false, Bool.and_eq_true, decide_eq_true_eq, Char.le_def, UInt32.le_iff_toNat_le]
  rfl

lemma isAnnotation_bounds {c : Char} (h : isAnnotation c) :
    0x3041 ≤ c.val.toNat ∧ c.val.toNat ≤ 0x30fc := by
  simp only [annotationRanges, isAnnotation, CharRange.contains, List.any_cons, List.any_nil,
    Bool.or_false, Bool.or_eq_true, Bool.and_eq_true, decide_eq_true_eq, Char.le_def,
    UInt32.le_iff_toNat_le] at h
  rcases h with h | h | h | h <;>
    exact ⟨le_trans (by decide) h.1, h.2.trans (by decide)⟩

/-- No character is an ideograph and kana at once. -/
lemma not_isLogographic_of_isAnnotation {c : Char} (h : isAnnotation c) : ¬ isLogographic c := by
  have hbound := (isAnnotation_bounds h).2
  rw [isLogographic_iff]
  omega

lemma toNat_le_of_ascii {c : Char} (h : c ≤ '\x7f') : c.val.toNat ≤ 0x7f := by
  rwa [Char.le_def, UInt32.le_iff_toNat_le] at h

lemma not_isLogographic_of_ascii {c : Char} (h : c ≤ '\x7f') : ¬ isLogographic c := by
  have hbound := toNat_le_of_ascii h
  rw [isLogographic_iff]
  omega

lemma not_isAnnotation_of_ascii {c : Char} (h : c ≤ '\x7f') : ¬ isAnnotation c := by
  have hbound := toNat_le_of_ascii h
  intro hann
  have hkana := (isAnnotation_bounds hann).1
  omega

namespace Brackets

variable {b : Brackets} {d : Detection} {t : Text}

/-- A word that can be detected: ideographs, kana behind them and a gloss. -/
@[mk_iff] structure IsWord (b : Brackets) (d : Detection) : Prop where
  base_ne : d.base ≠ []
  gloss_ne : d.gloss ≠ []
  base : ∀ c ∈ d.base, isLogographic c
  suffix : ∀ c ∈ d.suffix, isAnnotation c
  gloss : ∀ c ∈ d.gloss, b.allowsInGloss c

/-- The character in front of a word does not matter to it. -/
lemma IsWord.withBoundary (h : b.IsWord d) (boundary : Text) :
    b.IsWord { d with boundary := boundary } :=
  ⟨h.base_ne, h.gloss_ne, h.base, h.suffix, h.gloss⟩

/-- A glyph of the pair may stand in a gloss only as an ASCII word character or a separator. -/
lemma allowsInGloss_glyph_iff {c : Char} (hc : c ∈ b.toText) :
    b.allowsInGloss c ↔ isAsciiWord c ∨ isSeparator c := by
  have hglyph : c = b.opening ∨ c = b.closing := by simpa [toText] using hc
  rcases hglyph with rfl | rfl <;> simp [allowsInGloss]

lemma write_append (b : Brackets) (d : Detection) (t : Text) :
    b.write d ++ t
      = d.boundary ++ (d.base ++ (d.suffix ++ b.opening :: (d.gloss ++ b.closing :: t))) := by
  simp [write]

lemma write_ne_nil (b : Brackets) (d : Detection) : b.write d ≠ [] := by simp [write]

lemma write_eq_boundary_append (b : Brackets) (d : Detection) :
    b.write d = d.boundary ++ b.write { d with boundary := [] } := by
  simp [write]

/-! ## What is found -/

lemma findGloss_eq_some {g : Text} (h : b.findGloss t = some g) :
    g ≠ [] ∧ (∀ c ∈ g, b.allowsInGloss c) ∧ ∃ rest, t = b.opening :: (g ++ b.closing :: rest) := by
  cases t with
  | nil => simp [findGloss] at h
  | cons c t =>
      rw [findGloss] at h
      split_ifs at h with hc
      obtain ⟨⟨run, z⟩, hrun, rfl⟩ := Option.map_eq_some_iff.1 h
      obtain ⟨hne, hg, rest, rfl, hnext, _⟩ := runThen_eq_some hrun
      rw [List.isPrefixOf?_eq_some_iff_append_eq] at hnext
      obtain rfl : b.closing :: z = rest := hnext
      exact ⟨hne, hg, z, by rw [hc]⟩

lemma findWord_eq_some {boundary matched : Text} (h : b.findWord boundary t = some (d, matched)) :
    matched = b.write d ∧ d.boundary = boundary ∧ b.IsWord d ∧
      ∃ rest, boundary ++ t = b.write d ++ rest := by
  obtain ⟨⟨base, suffix, gloss⟩, hrun, heq⟩ := Option.map_eq_some_iff.1 h
  obtain ⟨rfl, rfl⟩ := Prod.mk.inj heq
  obtain ⟨hbase, hlog, rest, rfl, hnext, _⟩ := runThen_eq_some hrun
  obtain ⟨hsuffix, rest, rfl, hgloss⟩ := runOrNoneThen_eq_some hnext
  obtain ⟨hne, hg, rest, rfl⟩ := findGloss_eq_some hgloss
  exact ⟨rfl, rfl, ⟨hbase, hne, hlog, hsuffix, hg⟩, rest, by rw [write_append]⟩

/-- The character in front of a word makes no other difference. -/
lemma findWord_boundary (boundary : Text) (t : Text) :
    b.findWord boundary t = (b.findWord [] t).map fun (d, matched) =>
      ({ d with boundary := boundary }, boundary ++ matched) := by
  rw [findWord, findWord, Option.map_map]
  refine congrArg (Option.map · _) (funext fun found => ?_)
  simp [write]

/-- A word at the start of the text is found there. -/
lemma detect_of_findWord {r : Detection × Text} (h : b.findWord [] t = some r) :
    b.detect t = some r := by
  obtain ⟨d, matched⟩ := r
  obtain ⟨_, hboundary, hd, rest, ht⟩ := findWord_eq_some h
  obtain ⟨c, base, hbase⟩ := List.exists_cons_of_ne_nil hd.base_ne
  rw [List.nil_append, write_append, hboundary, hbase, List.nil_append, List.cons_append] at ht
  rw [ht, detect, if_pos (hd.base c (by simp [hbase])), ← ht, h]

/-- **What is found** is a word as it is written, with at most one character in front of it, which
is no ideograph. -/
theorem detect_eq_some {matched : Text} (h : b.detect t = some (d, matched)) :
    matched = b.write d ∧ b.IsWord d ∧
      (d.boundary = [] ∨ ∃ c, d.boundary = [c] ∧ ¬ isLogographic c) ∧
      ∃ rest, t = b.write d ++ rest := by
  cases t with
  | nil => simp [detect] at h
  | cons c t =>
      rw [detect] at h
      split_ifs at h with hc
      · obtain ⟨hm, hboundary, hd, hrest⟩ := findWord_eq_some h
        exact ⟨hm, hd, Or.inl hboundary, hrest⟩
      · obtain ⟨hm, hboundary, hd, hrest⟩ := findWord_eq_some h
        exact ⟨hm, hd, Or.inr ⟨c, hboundary, hc⟩, hrest⟩

lemma isSearch_detect (b : Brackets) : IsSearch b.detect := by
  intro t d matched h
  obtain ⟨rfl, hd, _, hrest⟩ := detect_eq_some h
  exact ⟨write_ne_nil b d, hrest⟩

/-! ## Characters that separate -/

/-- A character that neither a detected word nor its brackets can hold. -/
structure Separates (b : Brackets) (c : Char) : Prop where
  logographic : ¬ isLogographic c
  annotation : ¬ isAnnotation c
  gloss : ¬ b.allowsInGloss c
  opening : c ≠ b.opening
  closing : c ≠ b.closing

lemma findGloss_append_cons {c : Char} (hc : b.Separates c) (x : Text) :
    b.findGloss (x ++ c :: t) = b.findGloss x := by
  cases x with
  | nil =>
      exact if_neg hc.opening
  | cons e x =>
      have hclosing : c ∉ [b.closing] := by simpa using hc.closing
      rw [List.cons_append, findGloss, findGloss,
        runThen_append_cons_map hc.gloss (isPrefixOf?_append_cons hclosing), Option.map_map]
      rfl

lemma findWord_append_cons {c : Char} (hc : b.Separates c) (boundary x : Text) :
    b.findWord boundary (x ++ c :: t) = b.findWord boundary x := by
  rw [findWord, runThen_append_cons hc.logographic
    (runOrNoneThen_append_cons hc.annotation (findGloss_append_cons hc)), findWord]

/-- **A character that separates**: the search before it does not look behind it. -/
theorem detect_append_cons {c : Char} (hc : b.Separates c) {x : Text} (hx : x ≠ []) :
    b.detect (x ++ c :: t) = b.detect x := by
  obtain ⟨e, x, rfl⟩ := List.exists_cons_of_ne_nil hx
  rw [List.cons_append, detect, detect, findWord_append_cons hc, ← List.cons_append,
    findWord_append_cons hc]

/-! ## Where a word can go on

A word that has begun before a text goes on in it with ideographs, kana and the opening glyph, the
first two possibly absent. -/

/-- Whether kana lead to an opening glyph. -/
def Trails (b : Brackets) (t : Text) : Prop :=
  ∃ suffix rest, t = suffix ++ b.opening :: rest ∧ ∀ c ∈ suffix, isAnnotation c

/-- Whether ideographs and then kana lead to an opening glyph. -/
def Continues (b : Brackets) (t : Text) : Prop :=
  ∃ base rest, t = base ++ rest ∧ (∀ c ∈ base, isLogographic c) ∧ b.Trails rest

lemma Trails.continues (h : b.Trails t) : b.Continues t := ⟨[], t, rfl, by simp, h⟩

lemma not_continues_of_notMem (h : b.opening ∉ t) : ¬ b.Continues t := by
  rintro ⟨base, _, rfl, _, suffix, rest, rfl, _⟩
  exact h (by simp)

lemma trails_of_append {u : Text} (hu : b.opening ∉ u) (h : b.Trails (u ++ t)) : b.Trails t := by
  obtain ⟨suffix, rest, hut, hsuffix⟩ := h
  obtain ⟨m, rfl, ht⟩ := exists_append_of_notMem hu hut
  exact ⟨m, rest, ht, fun c hc => hsuffix c (by simp [hc])⟩

/-- A word that goes on behind a text without the opening glyph goes on in what follows. -/
lemma continues_of_append {u : Text} (hu : b.opening ∉ u) (h : b.Continues (u ++ t)) :
    b.Continues t := by
  obtain ⟨base, r, hut, hbase, hr⟩ := h
  rcases List.append_eq_append_iff.1 hut with ⟨m, rfl, rfl⟩ | ⟨m, rfl, rfl⟩
  · exact ⟨m, r, rfl, fun c hc => hbase c (by simp [hc]), hr⟩
  · have hm : b.opening ∉ m := fun hmem => hu (List.mem_append_right _ hmem)
    exact (trails_of_append hm hr).continues

/-- A character that is no ideograph ends the base. -/
lemma Continues.trails {c : Char} (hc : ¬ isLogographic c) (h : b.Continues (c :: t)) :
    b.Trails (c :: t) := by
  obtain ⟨base, r, hcr, hbase, hr⟩ := h
  cases base with
  | nil => rwa [hcr]
  | cons e base =>
      obtain ⟨rfl, _⟩ := List.cons.inj hcr
      exact absurd (hbase c (by simp)) hc

/-- What stands behind kana. -/
lemma trails_cons {c : Char} (h : b.Trails (c :: t)) :
    c = b.opening ∨ isAnnotation c ∧ b.Trails t := by
  obtain ⟨suffix, rest, hct, hsuffix⟩ := h
  cases suffix with
  | nil => exact Or.inl (List.cons.inj hct).1
  | cons e suffix =>
      obtain ⟨rfl, rfl⟩ := List.cons.inj hct
      exact Or.inr ⟨hsuffix c (by simp), suffix, rest, rfl, fun d hd =>
        hsuffix d (List.mem_cons_of_mem _ hd)⟩

/-- No word goes on across a character that it cannot hold. -/
lemma not_continues_cons {c : Char} (hlog : ¬ isLogographic c) (hann : ¬ isAnnotation c)
    (hc : c ≠ b.opening) : ¬ b.Continues (c :: t) := by
  intro h
  rcases trails_cons (h.trails hlog) with heq | ⟨hkana, _⟩
  · exact hc heq
  · exact hann hkana

/-- Behind a character that is no ideograph a word goes on with kana or not at all. -/
lemma not_continues_cons_of_head {c : Char} (hlog : ¬ isLogographic c) (hc : c ≠ b.opening)
    (ht : ∀ e ∈ t.head?, e ≠ b.opening ∧ ¬ isAnnotation e) : ¬ b.Continues (c :: t) := by
  intro h
  rcases trails_cons (h.trails hlog) with heq | ⟨_, htrails⟩
  · exact hc heq
  cases t with
  | nil =>
      obtain ⟨suffix, rest, hnil, _⟩ := htrails
      exact absurd hnil (by simp)
  | cons e t =>
      obtain ⟨he, hkana⟩ := ht e rfl
      rcases trails_cons htrails with heq | ⟨hann, _⟩
      · exact he heq
      · exact hkana hann

lemma trails_of_suffix (hsuffix : ∀ c ∈ d.suffix, isAnnotation c) (rest : Text) :
    b.Trails (d.suffix ++ b.opening :: rest) := ⟨d.suffix, rest, rfl, hsuffix⟩

/-- A word is only found where it goes on behind its first character. -/
lemma continues_of_detect {c : Char} {r : Detection × Text} (h : b.detect (c :: t) = some r) :
    b.Continues t := by
  obtain ⟨d, matched⟩ := r
  obtain ⟨_, hd, hboundary, rest, ht⟩ := detect_eq_some h
  rw [write_append] at ht
  rcases hboundary with hnil | ⟨e, he, _⟩
  · obtain ⟨f, base, hbase⟩ := List.exists_cons_of_ne_nil hd.base_ne
    rw [hnil, hbase, List.nil_append, List.cons_append] at ht
    refine ⟨base, _, (List.cons.inj ht).2, ?_, trails_of_suffix hd.suffix _⟩
    exact fun c hc => hd.base c (by simp [hbase, hc])
  · rw [he] at ht
    exact ⟨d.base, _, (List.cons.inj ht).2, hd.base, trails_of_suffix hd.suffix _⟩

/-- Nothing is found before a character that is no ideograph, unless it is at an ideograph. -/
lemma detect_cons_eq_none {c : Char} (hc : ¬ isLogographic c)
    (ht : ∀ e ∈ t.head?, ¬ isLogographic e) : b.detect (c :: t) = none := by
  rw [detect, if_neg hc, findWord]
  cases t with
  | nil => rfl
  | cons e t => rw [runThen, if_neg (ht e rfl)]; rfl

/-! ## When a written word is found -/

/-- A gloss is found as it was written if it ends at the first closing glyph, or at the last one. -/
lemma findGloss_write {gloss : Text} (hne : gloss ≠ []) (hgloss : ∀ c ∈ gloss, b.allowsInGloss c)
    (hclosing : ¬ b.allowsInGloss b.closing ∨ b.closing ∉ t) :
    b.findGloss (b.opening :: (gloss ++ b.closing :: t)) = some gloss := by
  have hnext : [b.closing].isPrefixOf? (b.closing :: t) = some t :=
    List.isPrefixOf?_eq_some_iff_append_eq.2 rfl
  have hrun : runThen b.allowsInGloss ([b.closing].isPrefixOf? ·) (gloss ++ b.closing :: t)
      = some (gloss, t) := by
    refine runThen_append hne hgloss hnext fun x y hxy hx hallowed => ?_
    obtain ⟨e, x, rfl⟩ := List.exists_cons_of_ne_nil hx
    obtain ⟨rfl, rfl⟩ := List.cons.inj hxy
    rcases hclosing with hstop | hlast
    · exact absurd (hallowed b.closing (by simp)) hstop
    · cases y with
      | nil => rfl
      | cons e y =>
          have he : b.closing ≠ e := fun heq => hlast (by simp [heq])
          simp [List.isPrefixOf?, he]
  rw [findGloss, if_pos rfl, hrun]
  rfl

/-- A word whose gloss is found is found as it was written. -/
lemma findWord_of_findGloss (hd : b.IsWord d) (hboundary : d.boundary = [])
    (hopening : ¬ isLogographic b.opening ∧ ¬ isAnnotation b.opening)
    (hgloss : b.findGloss (b.opening :: (d.gloss ++ b.closing :: t)) = some d.gloss) :
    b.findWord [] (b.write d ++ t) = some (d, b.write d) := by
  have hsuffix : runOrNoneThen isAnnotation b.findGloss
      (d.suffix ++ b.opening :: (d.gloss ++ b.closing :: t)) = some (d.suffix, d.gloss) :=
    runOrNoneThen_append_of_stop hd.suffix hgloss (by simpa using hopening.2)
  have hstop : ∀ c ∈ (d.suffix ++ b.opening :: (d.gloss ++ b.closing :: t)).head?,
      ¬ isLogographic c := by
    cases hs : d.suffix with
    | nil => simpa using hopening.1
    | cons c suffix =>
        simpa using not_isLogographic_of_isAnnotation (hd.suffix c (by simp [hs]))
  rw [write_append, hboundary, List.nil_append, findWord,
    runThen_append_of_stop hd.base_ne hd.base hsuffix hstop]
  simp [← hboundary]

/-- A word behind which the gloss ends is found as it was written. -/
theorem findWord_write (hd : b.IsWord d) (hboundary : d.boundary = [])
    (hopening : ¬ isLogographic b.opening ∧ ¬ isAnnotation b.opening)
    (hclosing : ¬ b.allowsInGloss b.closing) :
    b.findWord [] (b.write d ++ t) = some (d, b.write d) :=
  findWord_of_findGloss hd hboundary hopening
    (findGloss_write hd.gloss_ne hd.gloss (Or.inl hclosing))

/-! ## The character in front of a word -/

/-- What a detected word is replaced with. -/
def replacement (aligned : Bool) (fallback : Brackets) (d : Detection) : Text :=
  d.boundary ++ fallback.markup (d.segments aligned)

lemma apply_eq_pass (b : Brackets) (aligned : Bool) (fallback : Brackets) (t : Text) :
    b.apply aligned fallback t = pass b.detect (replacement aligned fallback) none t := rfl

variable {aligned : Bool} {fallback : Brackets}

/-- **The character in front of a word** stays, so a pass may as well start behind it. -/
theorem pass_cons_of_not_logographic {before : Option Char} (hbefore : before ≠ some escapeChar)
    {c : Char} (hc : ¬ isLogographic c) (t : Text) :
    pass b.detect (replacement aligned fallback) before (c :: t)
      = c :: pass b.detect (replacement aligned fallback) (some c) t := by
  have hdetect : b.detect (c :: t) = b.findWord [c] t := by rw [detect, if_neg hc]
  cases hword : b.findWord [] t with
  | none =>
      rw [findWord_boundary, hword] at hdetect
      exact pass_cons hdetect before
  | some r =>
      obtain ⟨d, matched⟩ := r
      obtain ⟨rfl, hboundary, _, rest, rfl⟩ := findWord_eq_some hword
      rw [findWord_boundary, hword] at hdetect
      have hescaped : isEscaped before (c :: b.write d) = isEscaped (some c) (b.write d) := by
        have hfree : (before == some escapeChar) = false := by simpa using hbefore
        rw [isEscaped, isEscaped, hfree, List.contains_cons, Bool.or_false, Bool.or_comm,
          Bool.beq_comm]
        rfl
      have hreplaced : replacement aligned fallback { d with boundary := [c] }
          = c :: replacement aligned fallback d := by
        rw [replacement, replacement, hboundary]
        rfl
      have hfound : b.detect (c :: b.write d ++ rest)
          = some ({ d with boundary := [c] }, c :: b.write d) := hdetect
      rw [← List.cons_append, pass_append_found hfound (by simp),
        pass_append_found (detect_of_findWord hword) (write_ne_nil b d), hescaped, hreplaced,
        behind_cons]
      split_ifs <;> rfl

/-! ## One pass -/

/-- Text without opening glyphs stays if no word goes on behind it. -/
lemma pass_append_of_notMem {before : Option Char} {u : Text} (hopening : b.opening ∉ u)
    (ht : ¬ b.Continues t) (hbehind : behind before u ≠ some escapeChar) :
    pass b.detect (replacement aligned fallback) before (u ++ t)
      = u ++ pass b.detect (replacement aligned fallback) none t := by
  have hnone : ∀ x, x ≠ [] → x <:+ u → b.detect (x ++ t) = none := by
    intro x hx hxu
    obtain ⟨c, x, rfl⟩ := List.exists_cons_of_ne_nil hx
    have hopening' : b.opening ∉ x := fun h => hopening (hxu.mem (List.mem_cons_of_mem c h))
    cases hfind : b.detect (c :: (x ++ t)) with
    | none => exact hfind
    | some r => exact absurd (continues_of_append hopening' (continues_of_detect hfind)) ht
  rw [pass_append_plain before u hnone, pass_eq_pass_none (isSearch_detect b) hbehind]

lemma apply_append_plain {u : Text} (hopening : b.opening ∉ u) (hesc : escapeChar ∉ u)
    (ht : ¬ b.Continues t) :
    b.apply aligned fallback (u ++ t) = u ++ b.apply aligned fallback t :=
  pass_append_of_notMem hopening ht (behind_ne_escape (by simp) hesc)

/-- A character that is neither an ideograph nor the escape stays, whatever follows it. -/
lemma apply_cons_of_not_logographic {c : Char} (hc : ¬ isLogographic c) (hesc : c ≠ escapeChar)
    (t : Text) : b.apply aligned fallback (c :: t) = c :: b.apply aligned fallback t := by
  rw [apply_eq_pass, pass_cons_of_not_logographic (by simp) hc,
    pass_eq_pass_none (isSearch_detect b) (by simpa using hesc)]
  rfl

/-- The same for a stretch of such characters. -/
lemma apply_append_of_not_logographic {u : Text}
    (hu : ∀ c ∈ u, ¬ isLogographic c ∧ c ≠ escapeChar) (t : Text) :
    b.apply aligned fallback (u ++ t) = u ++ b.apply aligned fallback t := by
  induction u with
  | nil => rfl
  | cons c u ih =>
      obtain ⟨hc, hesc⟩ := hu c (by simp)
      rw [List.cons_append, apply_cons_of_not_logographic hc hesc,
        ih fun d hd => hu d (List.mem_cons_of_mem _ hd), List.cons_append]

section Lead

variable {u : Text} (hopening : b.opening ∉ u) (hlast : ∀ c ∈ u.getLast?, ¬ isLogographic c)
  (ht : ∀ c ∈ t.head?, c ≠ b.opening ∧ ¬ isAnnotation c)

include hopening hlast ht

/-- No word goes on across text that ends in something else than an ideograph, unless kana
follow. -/
lemma not_continues_lead (hu : u ≠ []) : ¬ b.Continues (u ++ t) := by
  obtain ⟨v, c, rfl⟩ := (List.eq_nil_or_concat' u).resolve_left hu
  have hc : c ≠ b.opening := fun h => hopening (by simp [h])
  rw [List.append_assoc, List.singleton_append]
  intro hcontinues
  exact not_continues_cons_of_head (hlast c (by simp)) hc ht
    (continues_of_append (fun h => hopening (List.mem_append_left _ h)) hcontinues)

/-- Such text stays, whatever word follows it. -/
lemma apply_lead (hesc : escapeChar ∉ u) :
    b.apply aligned fallback (u ++ t) = u ++ b.apply aligned fallback t := by
  rcases List.eq_nil_or_concat' u with rfl | ⟨v, c, rfl⟩
  · rfl
  have hc : c ≠ b.opening := fun h => hopening (by simp [h])
  have hlog := hlast c (by simp)
  rw [List.append_assoc, List.singleton_append,
    apply_append_plain (fun h => hopening (List.mem_append_left _ h))
      (fun h => hesc (List.mem_append_left _ h)) (not_continues_cons_of_head hlog hc ht),
    apply_cons_of_not_logographic hlog fun h => hesc (by simp [h])]
  simp

end Lead

end Brackets

end Furigana
