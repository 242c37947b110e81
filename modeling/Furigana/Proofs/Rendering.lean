import Mathlib
import Furigana.Proofs.Document

/-!
# Documents are rendered item by item

With the standard options a conversion makes four passes and then resolves escapes.  Each of the
five steps is a `Stage`: the pass of a form or a pair annotates the words written with it, and
resolving escapes takes the escape off the lenticular brackets.

* `Form.annotates`, `Brackets.annotates`, `stage_unescape` — the steps;
* `Options.render_write_eq_rendered` — the steps one after the other;
* `Engine.render_document` — what a shared engine returns for a document.
-/

namespace Furigana

variable {aligned : Bool} {t : Text}

/-! ## The passes of the forms -/

namespace Form

variable {f f' : Form} {o : Occurrence} {forms : List Form}

/-- What the two standard forms have in common: square brackets around the word, and no mark that is
inner, kana, an ideograph, an angle bracket or the escape. -/
lemma standard_marks (hf : f = .standard ∨ f = .braced) :
    f.main = ⟨'[', ']'⟩ ∧ '[' ∉ f.middle ∧ f.gloss.closing ≠ '[' ∧
      ∀ c ∈ f.marks, c ≤ '\x7f' ∧ ¬ isInner c ∧ c ≠ escapeChar ∧ IsPlain c := by
  rcases hf with rfl | rfl
  · refine ⟨rfl, by decide, by decide, ?_⟩
    simp [standard, marks, middle, isInner, isAsciiWord, Text.isAsciiAlphanumeric, escapeChar,
      IsPlain]
  · refine ⟨rfl, by decide, by decide, ?_⟩
    simp [braced, marks, middle, isInner, isAsciiWord, Text.isAsciiAlphanumeric, escapeChar,
      IsPlain]

lemma admits_of_isInner (hf : f = .standard ∨ f = .braced) (ho : o.IsInner) : f.Admits o where
  toIsInner := ho
  word_marks c hc hmark := ((standard_marks hf).2.2.2 c hmark).2.1 (ho.word c hc)
  gloss_marks c hc hmark := ((standard_marks hf).2.2.2 c hmark).2.1 (ho.gloss c hc)

lemma escape_notMem_marks (hf : f = .standard ∨ f = .braced) : escapeChar ∉ f.marks :=
  fun h => ((standard_marks hf).2.2.2 _ h).2.2.1 rfl

/-- An occurrence is found under its own form. -/
lemma find_write_self (hf : f = .standard ∨ f = .braced) (ho : o.IsInner) :
    f.find (f.write o ++ t) = some (o, f.write o) := by
  refine find_write_of_not_isInner (admits_of_isInner hf ho) ?_
  exact ((standard_marks hf).2.2.2 _ (by simp [marks])).2.1

/-- Neither form finds what is written under the other one. -/
lemma find_write_of_ne (hf : f = .standard ∨ f = .braced) (hf' : f' = .standard ∨ f' = .braced)
    (hne : f' ≠ f) (ho : o.IsInner) : f.find (f'.write o ++ t) = none := by
  cases hfind : f.find (f'.write o ++ t) with
  | none => rfl
  | some r =>
      obtain ⟨o', matched⟩ := r
      obtain ⟨_, ho', rest, hrest⟩ := find_eq_some hfind
      have hmarks : ∀ {f : Form}, f = .standard ∨ f = .braced → ∀ c ∈ f.marks, ¬ isInner c :=
        fun hf c hc => ((standard_marks hf).2.2.2 c hc).2.1
      exact absurd (write_append_inj (hmarks hf') (hmarks hf) ho ho' hrest).1 hne

/-- What is written under the other form stays, also behind an escape. -/
lemma pass_write_of_ne {replace : Occurrence → Text} (hf : f = .standard ∨ f = .braced)
    (hf' : f' = .standard ∨ f' = .braced) (hne : f' ≠ f) (ho : o.IsInner) (before : Option Char) :
    pass f.find replace before (f'.write o ++ t) = f'.write o ++ pass f.find replace none t := by
  obtain ⟨_, hmiddle, hclosing, _⟩ := standard_marks hf'
  have hbracket : ¬ isInner '[' := by decide
  have hopening : '[' ∉ o.word ++ f'.middle ++ o.gloss ++ [f'.gloss.closing] := by
    simp [notMem_of_isInner hbracket ho.word, notMem_of_isInner hbracket ho.gloss, hmiddle,
      hclosing.symm]
  refine pass_write_append (isSearch_find f) (find_write_of_ne hf hf' hne ho)
    (fun c hc x => find_cons_of_ne ?_) (escape_notMem_write (escape_notMem_marks hf') ho) before
  rw [(standard_marks hf).1]
  rintro rfl
  exact hopening hc

lemma calm (hf : f = .standard ∨ f = .braced) :
    Calm (f.apply aligned .lenticular) (fun _ => True) := by
  have hmain := (standard_marks hf).1
  have hplain : ∀ u t, (∀ c ∈ u, c ≠ '[' ∧ c ≠ escapeChar) →
      f.apply aligned .lenticular (u ++ t) = u ++ f.apply aligned .lenticular t := by
    intro u t hu
    refine apply_append_plain ?_ (fun h => (hu _ h).2 rfl) t
    rw [hmain]
    exact fun h => (hu _ h).1 rfl
  have hnil : f.apply aligned .lenticular [] = [] := pass_nil none
  refine ⟨?_, hnil, ?_, ?_, trivial, fun _ _ _ _ => trivial, fun _ _ _ => trivial⟩
  · exact (nests_apply (fun c hc => ((standard_marks hf).2.2.2 c hc).2.2.2) isPlain_lenticular.1
      isPlain_lenticular.2).tag
  · intro c hc
    have hsingle := hplain [c] [] (by rcases hc with rfl | rfl <;> simp [escapeChar])
    rwa [hnil] at hsingle
  · intro u t hu _
    refine hplain u t fun c hc => ⟨?_, ?_⟩
    · rintro rfl
      exact hu _ hc (by decide)
    · rintro rfl
      exact hu _ hc (by decide)

/-- What is not written under the form stays, also behind an escape. -/
lemma pass_other {replace : Occurrence → Text} (hf : f = .standard ∨ f = .braced) {g : Glossed}
    (hg : g.Valid) (hother : ¬ ∃ o, g = .explicit f o) {before : Option Char} :
    pass f.find replace before (g.write ++ t) = g.write ++ pass f.find replace none t := by
  cases g with
  | explicit f' o =>
      obtain ⟨hf', ho⟩ := hg
      have hne : f' ≠ f := by
        rintro rfl
        exact hother ⟨o, rfl⟩
      exact pass_write_of_ne hf hf' hne ho.toIsInner before
  | detected b d =>
      have hopening : f.main.opening ∉ b.write d := by
        obtain ⟨hb, hd⟩ := hg
        rw [(standard_marks hf).1]
        refine hd.notMem_write (by decide) ?_ ?_ <;> rcases hb with rfl | rfl <;> decide
      have hesc : escapeChar ∉ b.write d := hg.escape_notMem
      exact pass_append_of_notMem hopening
        (behind_ne_escape_of_ne_nil before (Brackets.write_ne_nil b d) hesc) t

/-- **The pass of a standard form** annotates what is written under it. -/
theorem annotates (hf : f = .standard ∨ f = .braced) :
    Annotates aligned (f.apply aligned .lenticular) (fun _ => True)
      (fun g => ∃ o, g = .explicit f o) where
  toCalm := calm hf
  word := by
    rintro _ t hg ⟨o, rfl⟩ _
    exact apply_append_found (escape_notMem_marks hf) (find_write_self hf hg.2.toIsInner)
  other := fun g t hg hother _ => pass_other hf hg hother
  escaped := by
    intro g t hg _
    have hnone : f.find (escapeChar :: (g.write ++ t)) = none := by
      refine find_cons_of_ne ?_
      rw [(standard_marks hf).1]
      decide
    rw [apply_eq_pass, pass_cons hnone]
    by_cases hown : ∃ o, g = .explicit f o
    · obtain ⟨o, rfl⟩ := hown
      have ho := hg.2.toIsInner
      rw [Glossed.write, pass_escape_append_found (isSearch_find f) (find_write_self hf ho)
        (write_ne_nil f o) (escape_notMem_write (escape_notMem_marks hf) ho)]
      rfl
    · rw [pass_other hf hg hown]
      rfl
  escaped_bracket := by
    intro c t hc _
    have hopening : f.main.opening ∉ [escapeChar, c] := by
      rw [(standard_marks hf).1]
      rcases hc with rfl | rfl <;> decide
    have hbehind : behind none [escapeChar, c] ≠ some escapeChar := by
      rcases hc with rfl | rfl <;> decide
    exact pass_append_of_notMem hopening hbehind t
  lead := fun u t hu _ _ => ⟨(calm hf).clean u t hu trivial, fun _ => trivial⟩

lemma stage (aligned : Bool) (hf : f = .standard ∨ f = .braced) (forms : List Form)
    (pairs : List Brackets) :
    Stage (f.apply aligned .lenticular) (fun _ => True)
      (Item.partly aligned (Glossed.isDone forms pairs))
      (Item.partly aligned (Glossed.isDone (f :: forms) pairs)) :=
  (annotates hf).stage fun _ => Glossed.isDone_cons_form

end Form

/-! ## The passes of the pairs -/

namespace Brackets

variable {b b' : Brackets} {d : Detection}

/-- What the two standard pairs have in common: their glyphs are reserved and differ from those of
every other notation, and a gloss cannot hold the closing one. -/
lemma standard_glyphs (hb : b = .lenticular ∨ b = .braces) :
    b.opening ∈ reserved ∧ b.opening ∉ [escapeChar, '[', ']', '<', ')', '\x7d'] ∧
      ¬ b.allowsInGloss b.closing ∧ IsPlain b.opening ∧ IsPlain b.closing := by
  rcases hb with rfl | rfl
  · refine ⟨by decide, by decide, ?_, ?_⟩ <;>
      simp [lenticular, allowsInGloss, isAsciiWord, Text.isAsciiAlphanumeric, isSeparator,
        separators, IsPlain]
  · refine ⟨by decide, by decide, ?_, ?_⟩ <;>
      simp [braces, allowsInGloss, isAsciiWord, Text.isAsciiAlphanumeric, isSeparator, separators,
        IsPlain]

lemma not_isLogographic_opening (hb : b = .lenticular ∨ b = .braces) : ¬ isLogographic b.opening :=
  not_isLogographic_of_mem_reserved (standard_glyphs hb).1

/-- No word goes on across an ASCII character that is not the opening glyph. -/
lemma not_continues_of_ascii {c : Char} (hc : c ≤ '\x7f') (hopening : c ≠ b.opening) (t : Text) :
    ¬ b.Continues (c :: t) :=
  not_continues_cons (not_isLogographic_of_ascii hc) (not_isAnnotation_of_ascii hc) hopening

lemma calm (hb : b = .lenticular ∨ b = .braces) :
    Calm (b.apply aligned .lenticular) (fun t => ¬ b.Continues t) := by
  obtain ⟨hreserved, hglyphs, _, hplain⟩ := standard_glyphs hb
  have hnil : b.apply aligned .lenticular [] = [] := pass_nil none
  refine ⟨?_, hnil, ?_, ?_, not_continues_of_notMem (by simp), ?_, ?_⟩
  · exact (nests_apply hplain isPlain_lenticular.1 isPlain_lenticular.2).tag
  · intro c hc
    have hlog : ¬ isLogographic c :=
      not_isLogographic_of_mem_reserved (by rcases hc with rfl | rfl <;> decide)
    have hesc : c ≠ escapeChar := by rcases hc with rfl | rfl <;> decide
    rw [apply_cons_of_not_logographic hlog hesc, hnil]
  · intro u t hu ht
    exact apply_append_plain (notMem_of_isClean hu hreserved) (notMem_of_isClean hu (by decide)) ht
  · intro u t hu ht hcontinues
    exact ht (continues_of_append (notMem_of_isClean hu hreserved) hcontinues)
  · intro g t hg
    obtain ⟨name, rfl, _⟩ := hg.eq
    refine not_continues_of_ascii (by decide) ?_ _
    rintro h
    exact hglyphs (by simp [← h])

/-- What is written under a form stays in the pass of a pair, also behind an escape: it is cut at
the glyphs of the form, none of which a detected word can hold. -/
lemma pass_explicit (hb : b = .lenticular ∨ b = .braces) {f : Form} {o : Form.Occurrence}
    (hf : f = .standard ∨ f = .braced) (ho : o.Valid) (before : Option Char) :
    pass b.detect (replacement aligned .lenticular) before (f.write o ++ t)
      = f.write o ++ b.apply aligned .lenticular t := by
  obtain ⟨hreserved, hglyphs, _⟩ := standard_glyphs hb
  obtain ⟨hmain, _, _, hmarks⟩ := Form.standard_marks hf
  have hesc : escapeChar ∉ '[' :: o.word := by
    simp only [List.mem_cons, not_or]
    exact ⟨by decide, notMem_of_isClean ho.isClean_word (by decide)⟩
  have hword : b.opening ∉ '[' :: o.word := by
    simp only [List.mem_cons, not_or]
    exact ⟨fun h => hglyphs (by simp [h]), notMem_of_isClean ho.isClean_word hreserved⟩
  have hmiddle : ∀ c ∈ f.middle, ¬ isLogographic c ∧ c ≠ escapeChar := by
    intro c hc
    obtain ⟨hascii, _, hne, _⟩ := hmarks c (Form.middle_subset_marks hc)
    exact ⟨not_isLogographic_of_ascii hascii, hne⟩
  obtain ⟨hascii, _, hne, _⟩ := hmarks f.gloss.closing (by simp [Form.marks])
  have hclosing : f.gloss.closing ≠ b.opening := by
    rintro h
    rcases hf with rfl | rfl <;> exact hglyphs (by simp [← h, Form.standard, Form.braced])
  have hbehind : behind before ('[' :: o.word) ≠ some escapeChar :=
    behind_ne_escape_of_ne_nil before (by simp) hesc
  have hstop : ∀ u, ¬ b.Continues (f.middle ++ u) := by
    intro u
    rw [Form.middle, hmain]
    exact not_continues_of_ascii (by decide) (fun h => hglyphs (by simp [← h])) _
  calc pass b.detect (replacement aligned .lenticular) before (f.write o ++ t)
      = pass b.detect (replacement aligned .lenticular) before
          (('[' :: o.word) ++ (f.middle ++ (o.gloss ++ f.gloss.closing :: t))) := by
        rw [Form.write_append, hmain, List.cons_append]
    _ = ('[' :: o.word)
          ++ (f.middle ++ (o.gloss ++ f.gloss.closing :: b.apply aligned .lenticular t)) := by
        rw [pass_append_of_notMem hword (hstop _) hbehind, ← apply_eq_pass,
          apply_append_of_not_logographic hmiddle,
          apply_append_plain (notMem_of_isClean ho.isClean_gloss hreserved)
            (notMem_of_isClean ho.isClean_gloss (by decide))
            (not_continues_of_ascii hascii hclosing t),
          apply_cons_of_not_logographic (not_isLogographic_of_ascii hascii) hne]
    _ = f.write o ++ b.apply aligned .lenticular t := by
        rw [Form.write_append, hmain, List.cons_append]

/-- What is not written in the pair stays, also behind an escape. -/
lemma pass_other (hb : b = .lenticular ∨ b = .braces) {g : Glossed} (hg : g.Valid)
    (hother : ¬ ∃ d, g = .detected b d) (ht : ¬ b.Continues t) (before : Option Char) :
    pass b.detect (replacement aligned .lenticular) before (g.write ++ t)
      = g.write ++ b.apply aligned .lenticular t := by
  cases g with
  | explicit f o => exact pass_explicit hb hg.1 hg.2 before
  | detected b' d =>
      have hesc : escapeChar ∉ b'.write d := hg.escape_notMem
      obtain ⟨hb', hd⟩ := hg
      have hne : b.opening ≠ b'.opening ∧ b.opening ≠ b'.closing := by
        rcases hb with rfl | rfl <;> rcases hb' with rfl | rfl
        · exact absurd ⟨d, rfl⟩ hother
        · decide
        · decide
        · exact absurd ⟨d, rfl⟩ hother
      exact pass_append_of_notMem (hd.notMem_write (standard_glyphs hb).1 hne.1 hne.2) ht
        (behind_ne_escape_of_ne_nil before (write_ne_nil b' d) hesc)

/-- A word is found in its own pair. -/
lemma detect_write_self (hb : b = .lenticular ∨ b = .braces) (hd : d.Valid) :
    b.detect (b.write d ++ t) = some (d, b.write d) := by
  obtain ⟨hreserved, _, hclosing, _⟩ := standard_glyphs hb
  exact detect_of_findWord (findWord_write (hd.isWord hb) hd.boundary
    ⟨not_isLogographic_opening hb, not_isAnnotation_of_mem_reserved hreserved⟩ hclosing)

/-- A word behind an escape stays. -/
lemma apply_escaped (hb : b = .lenticular ∨ b = .braces) {g : Glossed} (hg : g.Valid)
    (ht : ¬ b.Continues t) :
    b.apply aligned .lenticular (escapeChar :: (g.write ++ t))
      = escapeChar :: (g.write ++ b.apply aligned .lenticular t) := by
  have hesc : ¬ isLogographic escapeChar := not_isLogographic_of_mem_reserved (by decide)
  rw [apply_eq_pass, pass_cons_of_not_logographic (by simp) hesc]
  by_cases hown : ∃ d, g = .detected b d
  · obtain ⟨d, rfl⟩ := hown
    rw [Glossed.write, pass_escape_append_found (isSearch_detect b) (detect_write_self hb hg.2)
      (write_ne_nil b d) hg.escape_notMem]
    rfl
  · rw [pass_other hb hg hown ht]

/-- A lenticular bracket behind an escape stays, although it may be the opening glyph. -/
lemma apply_escaped_bracket {c : Char} (hc : c = '【' ∨ c = '】') (ht : ¬ b.Continues t) :
    b.apply aligned .lenticular (escapeChar :: c :: t)
      = escapeChar :: c :: b.apply aligned .lenticular t := by
  have hlog : ¬ isLogographic c :=
    not_isLogographic_of_mem_reserved (by rcases hc with rfl | rfl <;> decide)
  have hesc : ¬ isLogographic escapeChar := not_isLogographic_of_mem_reserved (by decide)
  have hfirst : b.detect (escapeChar :: c :: t) = none :=
    detect_cons_eq_none hesc (by simpa using hlog)
  have hsecond : b.detect (c :: t) = none := by
    cases hfind : b.detect (c :: t) with
    | none => rfl
    | some r => exact absurd (continues_of_detect hfind) ht
  have hbehind : some c ≠ some escapeChar := by rcases hc with rfl | rfl <;> decide
  rw [apply_eq_pass, pass_cons hfirst, pass_cons hsecond,
    pass_eq_pass_none (isSearch_detect b) hbehind, apply_eq_pass]

/-- An item starts neither with an opening glyph nor with kana. -/
lemma head_of_startsItem (hb : b = .lenticular ∨ b = .braces) (ht : StartsItem t) :
    ∀ c ∈ t.head?, c ≠ b.opening ∧ ¬ isAnnotation c := by
  obtain ⟨_, hglyphs, _⟩ := standard_glyphs hb
  obtain ⟨c, t, rfl, hc⟩ := ht
  intro e he
  obtain rfl : c = e := by simpa using he
  rcases hc with rfl | rfl | rfl | hlog
  · exact ⟨fun h => hglyphs (by simp [← h]), not_isAnnotation_of_ascii (by decide)⟩
  · exact ⟨fun h => hglyphs (by simp [← h]), not_isAnnotation_of_ascii (by decide)⟩
  · exact ⟨fun h => hglyphs (by simp [← h]), not_isAnnotation_of_ascii (by decide)⟩
  · refine ⟨?_, fun hann => not_isLogographic_of_isAnnotation hann hlog⟩
    rintro rfl
    exact not_isLogographic_opening hb hlog

/-- **The pass of a standard pair** annotates what is written in it. -/
theorem annotates (hb : b = .lenticular ∨ b = .braces) :
    Annotates aligned (b.apply aligned .lenticular) (fun t => ¬ b.Continues t)
      (fun g => ∃ d, g = .detected b d) where
  toCalm := calm hb
  word := by
    rintro _ t hg ⟨d, rfl⟩ _
    have hfound : b.apply aligned .lenticular (b.write d ++ t)
        = replacement aligned .lenticular d ++ b.apply aligned .lenticular t :=
      pass_none_append_found (isSearch_detect b) (detect_write_self hb hg.2) (write_ne_nil b d)
        hg.escape_notMem
    rw [Glossed.write, hfound, replacement, hg.2.boundary]
    rfl
  other := fun g t hg hother ht => pass_other hb hg hother ht none
  escaped := fun g t hg ht => apply_escaped hb hg ht
  escaped_bracket := fun c t hc ht => apply_escaped_bracket hc ht
  lead := by
    intro u t hu hlast hstart
    have hopening := notMem_of_isClean hu (standard_glyphs hb).1
    have hhead := head_of_startsItem hb hstart
    exact ⟨apply_lead hopening hlast hhead (notMem_of_isClean hu (by decide)),
      not_continues_lead hopening hlast hhead⟩

lemma stage (aligned : Bool) (hb : b = .lenticular ∨ b = .braces) (forms : List Form)
    (pairs : List Brackets) :
    Stage (b.apply aligned .lenticular) (fun t => ¬ b.Continues t)
      (Item.partly aligned (Glossed.isDone forms pairs))
      (Item.partly aligned (Glossed.isDone forms (b :: pairs))) :=
  (annotates hb).stage fun _ => Glossed.isDone_cons_pair

end Brackets

/-! ## Resolving escapes -/

/-- **Resolving escapes** takes the escape off the lenticular brackets. -/
theorem stage_unescape (aligned : Bool) {done : Glossed → Bool} (hdone : ∀ g : Glossed, g.Valid → done g) :
    Stage (unescape .lenticular) (fun _ => True) (Item.partly aligned done)
      (Item.rendered aligned) := by
  have hclean : ∀ u t, (∀ c ∈ u, IsClean c) →
      unescape .lenticular (u ++ t) = u ++ unescape .lenticular t :=
    fun u t hu => unescape_append_plain (notMem_of_isClean hu (by decide)) t
  have hcalm : Calm (unescape .lenticular) (fun _ => True) :=
    ⟨(nests_unescape isPlain_lenticular.1 isPlain_lenticular.2).tag, rfl, fun _ _ => rfl,
      fun u t hu _ => hclean u t hu, trivial, fun _ _ _ _ => trivial, fun _ _ _ => trivial⟩
  refine ⟨hcalm, ?_, fun u i t hu _ _ => ⟨hclean u _ hu, fun _ => trivial⟩⟩
  intro i t hi _
  cases i with
  | word g =>
      rw [Item.partly, if_pos (hdone g hi), Item.rendered]
      exact (hcalm.markup (Glossed.Valid.over_segments hi aligned) trivial).1
  | escaped g =>
      obtain ⟨c, u, hu, hc⟩ := Glossed.Valid.exists_cons hi
      have hne : c ≠ '【' ∧ c ≠ '】' := by
        rcases hc with rfl | hlog
        · decide
        · constructor <;> rintro rfl <;> exact isClean_of_isLogographic hlog (by decide)
      have hwrite : unescape .lenticular (g.write ++ t) = g.write ++ unescape .lenticular t :=
        unescape_append_plain (Glossed.Valid.escape_notMem hi) t
      rw [Item.partly, Item.rendered, List.cons_append, List.cons_append, ← hwrite, hu,
        List.cons_append, unescape_escape_cons_of_ne hne.1 hne.2]
  | bracket c =>
      have hglyph : c = Brackets.lenticular.opening ∨ c = Brackets.lenticular.closing := hi
      have hesc : c ≠ escapeChar := by rcases hi with rfl | rfl <;> decide
      rw [Item.partly, Item.rendered, List.cons_append, List.singleton_append,
        unescape_escape_glyph hglyph, unescape_cons_of_ne hesc, List.singleton_append]

/-! ## The conversion -/

/-- The standard options, with or without alignment. -/
def Options.standardWith (aligned : Bool) : Options :=
  { Options.standard with patternMatching := aligned }

lemma compileList_defaultForms :
    Form.compileList Options.defaultForms = [.standard, .braced] := by decide

lemma compileList_defaultAutoBracketSets :
    Brackets.compileList Options.defaultAutoBracketSets = [.lenticular, .braces] := by decide

/-- The five steps one after the other. -/
lemma Options.render_write_eq_rendered {d : Document} (hd : d.Valid) (aligned : Bool) :
    (Options.standardWith aligned).render d.write = d.rendered aligned := by
  have hforms : (standardWith aligned).activeForms = [.standard, .braced] :=
    compileList_defaultForms
  have hpairs : (standardWith aligned).activePairs = [.lenticular, .braces] :=
    compileList_defaultAutoBracketSets
  have hfallback : (standardWith aligned).fallback = .lenticular := rfl
  have hall : ∀ g : Glossed, g.Valid →
      g.isDone [.braced, .standard] [.braces, .lenticular] := by
    intro g hg
    cases g with
    | explicit f o => rcases hg.1 with rfl | rfl <;> rfl
    | detected b d => rcases hg.1 with rfl | rfl <;> rfl
  -- the shape of the items between two steps says which passes are over
  have hstandard := (Form.stage aligned (Or.inl rfl) [] []).text hd
  have hbraced := (Form.stage aligned (Or.inr rfl) [.standard] []).text hd
  have hlenticular := (Brackets.stage aligned (Or.inl rfl) [.braced, .standard] []).text hd
  have hbraces := (Brackets.stage aligned (Or.inr rfl) [.braced, .standard] [.lenticular]).text hd
  have hunescape := (stage_unescape aligned hall).text hd
  rw [Options.render, convert, hforms, hpairs, hfallback]
  simp only [List.foldl_cons, List.foldl_nil]
  rw [Document.write, ← Item.partly_isDone_nil aligned, Document.rendered, ← hunescape, ← hbraces,
    ← hlenticular, ← hbraced, ← hstandard]
  rfl

/-- An item alone is a document. -/
lemma Item.Valid.document {i : Item} (hi : i.Valid) : Document.Valid ⟨[([], i)], []⟩ where
  item := by simpa using hi
  lead := by simp
  boundary := by simp
  gap := by simp
  last := by simp

/-- **Documents are rendered item by item.**  With the standard options, aligned or not, a shared
engine returns every plain piece of a document as it is, every word annotated, every escaped word as
it was written and every escaped bracket without its escape; each item becomes what it becomes
alone. -/
theorem Engine.render_document {e : Engine} (he : e.Reachable) {d : Document} (hd : d.Valid)
    (aligned : Bool) :
    (e.render (Options.standardWith aligned) d.write).1 = d.rendered aligned ∧
      ∀ item ∈ d.items, (e.render (Options.standardWith aligned) item.2.write).1
        = item.2.rendered aligned := by
  refine ⟨?_, ?_⟩
  · rw [he.render_eq, Options.render_write_eq_rendered hd]
  · intro item hitem
    have halone := Options.render_write_eq_rendered (hd.item item hitem).document aligned
    rw [he.render_eq]
    simpa [Document.write, Document.rendered] using halone

/-- Items of every kind, one of them with kana inside and one with a reading for each ideograph. -/
theorem Engine.render_document_every_kind :
    ∃ d : Document, d.Valid ∧
      d.write = ("昔、[食べ物]^(たべもの)と[本]\x7bほん\x7dの\\明日【あす】は".toList
        ++ "東京\x7bとう.きょう\x7dで\\【x\\】漢".toList) ∧
      d.rendered true = ("昔、<ruby>食<rp>【</rp><rt>た</rt><rp>】</rp></ruby>べ".toList
        ++ "<ruby>物<rp>【</rp><rt>もの</rt><rp>】</rp></ruby>と".toList
        ++ "<ruby>本<rp>【</rp><rt>ほん</rt><rp>】</rp></ruby>の\\明日【あす】は".toList
        ++ "<ruby>東<rp>【</rp><rt>とう</rt><rp>】</rp></ruby>".toList
        ++ "<ruby>京<rp>【</rp><rt>きょう</rt><rp>】</rp></ruby>で【x】漢".toList) ∧
      (fresh.render (Options.standardWith true) d.write).1 = d.rendered true ∧
      ∀ item ∈ d.items, (fresh.render (Options.standardWith true) item.2.write).1
        = item.2.rendered true := by
  let d : Document := ⟨[
    (['昔', '、'], .word (.explicit .standard ⟨['食', 'べ', '物'], ['た', 'べ', 'も', 'の']⟩)),
    (['と'], .word (.explicit .braced ⟨['本'], ['ほ', 'ん']⟩)),
    (['の'], .escaped (.detected .lenticular ⟨[], ['明', '日'], [], ['あ', 'す']⟩)),
    (['は'], .word (.detected .braces
      ⟨[], ['東', '京'], [], ['と', 'う', '.', 'き', 'ょ', 'う']⟩)),
    (['で'], .bracket '【'), (['x'], .bracket '】')], ['漢']⟩
  have hd : d.Valid := by
    simp [d, Document.valid_iff, Item.Valid, Glossed.Valid, Form.Occurrence.valid_iff,
      Form.Occurrence.isInner_iff, Detection.valid_iff, IsClean, reserved, isInner, isLogographic,
      logographicRanges, CharRange.contains, isSeparator, separators]
  exact ⟨d, hd, by decide +kernel, by decide +kernel, render_document Reachable.fresh hd true⟩

end Furigana
