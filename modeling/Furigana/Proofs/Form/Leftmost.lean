import Mathlib
import Furigana.Proofs.Form.Separation

/-!
# Leftmost occurrences

The glyphs of a form and its separator may be inner characters themselves.  Then one text can often
be read as an occurrence in several ways, and the search has to try them out.  What it takes has a
simple description all the same: of all occurrences that begin at a place, the one with the longest
word, and of those the one with the longest gloss; and of all places at which some occurrence begins
behind the cursor, the first one.

* `Begins`, `IsChoice` — the occurrences that begin a text, and the one among them that is taken;
* `find_eq_some_iff`, `find_eq_none_iff` — the search finds it, and fails only if there is none;
* `LeftmostScan`, `leftmostScan_iff` — the scan from the cursor to the next occurrence and so on,
  which only one list of pieces fits;
* **`apply_leftmost`** — a pass converts the occurrences of that scan.
-/

namespace Furigana.Form

variable {f : Form} {o o' : Occurrence} {t : Text}

/-! ## The choice at one place -/

/-- Whether the text begins with the occurrence as it is written. -/
def Begins (f : Form) (t : Text) (o : Occurrence) : Prop := o.IsInner ∧ f.write o <+: t

/-- The occurrence with the longest word of all that begin the text, and with the longest gloss of
all that begin it with this word. -/
structure IsChoice (f : Form) (t : Text) (o : Occurrence) : Prop where
  begins : f.Begins t o
  word : ∀ o', f.Begins t o' → o'.word.length ≤ o.word.length
  gloss : ∀ o', f.Begins t o' → o'.word = o.word → o'.gloss.length ≤ o.gloss.length

lemma Begins.exists_eq (h : f.Begins t o) : ∃ rest,
    t = f.main.opening :: (o.word ++ (f.middle ++ (o.gloss ++ f.gloss.closing :: rest))) := by
  obtain ⟨rest, hrest⟩ := h.2
  exact ⟨rest, by rw [← hrest, write_append]⟩

lemma begins_write (ho : o.IsInner) (t : Text) : f.Begins (f.write o ++ t) o :=
  ⟨ho, List.prefix_append _ t⟩

/-- There is at most one choice. -/
lemma IsChoice.unique (h : f.IsChoice t o) (h' : f.IsChoice t o') : o = o' := by
  obtain ⟨rest, ht⟩ := h.begins.exists_eq
  obtain ⟨rest', ht'⟩ := h'.begins.exists_eq
  have htext := (List.cons.inj (ht.symm.trans ht')).2
  obtain ⟨hword, htext⟩ := List.append_inj htext
    (le_antisymm (h'.word o h.begins) (h.word o' h'.begins))
  obtain ⟨hgloss, _⟩ := List.append_inj (List.append_cancel_left htext)
    (le_antisymm (h'.gloss o h.begins hword) (h.gloss o' h'.begins hword.symm))
  calc o = ⟨o.word, o.gloss⟩ := rfl
    _ = o' := by rw [hword, hgloss]

/-- The search fails only where no occurrence begins. -/
theorem find_eq_none_iff : f.find t = none ↔ ∀ o, ¬ f.Begins t o := by
  constructor
  · rintro h o ⟨ho, rest, rfl⟩
    exact find_write_ne_none ho h
  · intro h
    cases hfind : f.find t with
    | none => rfl
    | some r =>
        obtain ⟨_, ho, rest, rfl⟩ := find_eq_some hfind
        exact absurd (begins_write ho rest) (h r.1)

/-- What is found is the choice. -/
lemma isChoice_of_find {matched : Text} (h : f.find t = some (o, matched)) : f.IsChoice t o := by
  obtain ⟨_, ho, rest, rfl⟩ := find_eq_some h
  have hbegins := begins_write (f := f) ho rest
  rw [write_append, find, if_pos rfl] at h
  obtain ⟨⟨word, gloss⟩, hrun, heq⟩ := Option.map_eq_some_iff.1 h
  obtain ⟨rfl, _⟩ := Prod.mk.inj heq
  refine ⟨hbegins, fun o' ho' => ?_, fun o' ho' hword => ?_⟩
  · obtain ⟨rest', ht⟩ := ho'.exists_eq
    rw [write_append] at ht
    refine length_le_of_runThen hrun (List.cons.inj ht).2 ho'.1.word ?_
    rw [middle_bind_append]
    exact findGloss_append_ne_none ho'.1.gloss_ne ho'.1.gloss
  · obtain ⟨rest', ht⟩ := ho'.exists_eq
    rw [write_append, hword] at ht
    have hgloss := List.append_cancel_left (List.append_cancel_left (List.cons.inj ht).2)
    obtain ⟨_, _, z, hz, hnext, _⟩ := runThen_eq_some hrun
    rw [← List.append_cancel_left hz, middle_bind_append, findGloss] at hnext
    obtain ⟨⟨run, z⟩, hgrun, rfl⟩ := Option.map_eq_some_iff.1 hnext
    refine length_le_of_runThen hgrun hgloss ho'.1.gloss ?_
    simp [isPrefixOf?_singleton_eq_some.2]

/-- **What the search finds** is the longest word that begins an occurrence here, with the longest
gloss for it. -/
theorem find_eq_some_iff {matched : Text} :
    f.find t = some (o, matched) ↔ matched = f.write o ∧ f.IsChoice t o := by
  constructor
  · intro h
    exact ⟨(find_eq_some h).1, isChoice_of_find h⟩
  · rintro ⟨rfl, h⟩
    obtain ⟨rest, hrest⟩ := h.begins.2
    have hne : f.find t ≠ none := hrest ▸ find_write_ne_none h.begins.1
    obtain ⟨⟨o', matched⟩, hfind⟩ := Option.ne_none_iff_exists'.1 hne
    obtain rfl := h.unique (isChoice_of_find hfind)
    rw [hfind, (find_eq_some hfind).1]

-- All marks are inner, and the word could end at the first `b`, the gloss at the first `d`.
example : (find ⟨⟨'a', 'b'⟩, [], ⟨'c', 'd'⟩⟩ "a1bcbc2dd".toList).map (·.1)
    = some ⟨"1bc".toList, "2d".toList⟩ := by decide +kernel

/-! ## From occurrence to occurrence -/

/-- A text cut by going from its start to the first place at which an occurrence begins, taking the
choice there, and going on behind it.  `before` is the character in front of the text. -/
inductive LeftmostScan (f : Form) : Option Char → Text → List (Piece Occurrence) → Prop
  /-- No occurrence begins anywhere. -/
  | done {before : Option Char} {t : Text} (hnone : ∀ x, x <:+ t → ∀ o, ¬ f.Begins x o) :
      LeftmostScan f before t (t.map .plain)
  /-- No occurrence begins in `gap`, and `o` is the choice behind it.  It is escaped if it holds an
  escape or directly follows one. -/
  | occurrence {before : Option Char} {gap t : Text} {o : Occurrence} {escaped : Bool}
      {pieces : List (Piece Occurrence)}
      (hgap : ∀ x, x ≠ [] → x <:+ gap → ∀ o', ¬ f.Begins (x ++ (f.write o ++ t)) o')
      (hchoice : f.IsChoice (f.write o ++ t) o)
      (hescaped : escaped = true ↔
        escapeChar ∈ f.write o ∨ behind before gap = some escapeChar)
      (hrest : LeftmostScan f (f.write o).getLast? t pieces) :
      LeftmostScan f before (gap ++ (f.write o ++ t))
        (gap.map .plain ++ .found escaped (f.write o) o :: pieces)

/-- A character at which no occurrence begins. -/
lemma LeftmostScan.cons_plain {before : Option Char} {c : Char} {pieces : List (Piece Occurrence)}
    (hc : ∀ o, ¬ f.Begins (c :: t) o) (h : f.LeftmostScan (some c) t pieces) :
    f.LeftmostScan before (c :: t) (.plain c :: pieces) := by
  cases h with
  | done hnone =>
      refine .done (t := c :: t) fun x hx => ?_
      rcases List.suffix_cons_iff.1 hx with rfl | hx
      · exact hc
      · exact hnone x hx
  | @occurrence _ gap t o escaped pieces hgap hchoice hescaped hrest =>
      have hgap' : ∀ x, x ≠ [] → x <:+ c :: gap → ∀ o', ¬ f.Begins (x ++ (f.write o ++ t)) o' := by
        intro x hne hx
        rcases List.suffix_cons_iff.1 hx with rfl | hx
        · exact hc
        · exact hgap x hne hx
      rw [← behind_cons before] at hescaped
      exact .occurrence hgap' hchoice hescaped hrest

/-- What is computed is such a scan. -/
theorem leftmostScan_scan (f : Form) (before : Option Char) (t : Text) :
    f.LeftmostScan before t (Furigana.scan f.find before t) := by
  refine pass_induction (isSearch_find f)
    (motive := fun before t => f.LeftmostScan before t (Furigana.scan f.find before t))
    ?_ ?_ ?_ before t
  · intro before
    rw [scan_nil]
    refine .done fun x hx => ?_
    rw [List.suffix_nil.1 hx]
    exact find_eq_none_iff.1 rfl
  · intro before c t hnone ih
    rw [scan_cons hnone]
    exact ih.cons_plain (find_eq_none_iff.1 hnone)
  · intro before matched t o hsome hne ih
    rw [scan_append_found hsome hne]
    obtain ⟨rfl, hchoice⟩ := find_eq_some_iff.1 hsome
    rw [behind_of_ne_nil before hne] at ih ⊢
    have hgap : ∀ x : Text, x ≠ [] → x <:+ [] → ∀ o', ¬ f.Begins (x ++ (f.write o ++ t)) o' :=
      fun x hx hnil => absurd (List.suffix_nil.1 hnil) hx
    exact (LeftmostScan.occurrence hgap hchoice isEscaped_iff ih :)

/-- **Only one list of pieces fits**, the one that is computed. -/
theorem leftmostScan_iff {before : Option Char} {pieces : List (Piece Occurrence)} :
    f.LeftmostScan before t pieces ↔ pieces = Furigana.scan f.find before t := by
  constructor
  · intro h
    induction h with
    | @done before t hnone =>
        have hfind : ∀ x, x ≠ [] → x <:+ t → f.find (x ++ []) = none := by
          intro x _ hx
          rw [List.append_nil]
          exact find_eq_none_iff.2 (hnone x hx)
        simpa using (scan_append_plain before t hfind).symm
    | @occurrence before gap t o escaped pieces hgap hchoice hescaped hrest ih =>
        have hfind := find_eq_some_iff.2 ⟨rfl, hchoice⟩
        have hguard : escaped = isEscaped (behind before gap) (f.write o) := by
          rw [Bool.eq_iff_iff, hescaped, isEscaped_iff]
        rw [scan_append_plain before gap fun x hne hx => find_eq_none_iff.2 (hgap x hne hx),
          scan_append_found hfind (write_ne_nil f o), behind_of_ne_nil _ (write_ne_nil f o), ← ih,
          hguard]
  · rintro rfl
    exact leftmostScan_scan f before t

/-- **A pass converts the leftmost occurrences.**  One list of pieces is the leftmost scan of the text.
Its plain characters stay, and so do the occurrences that an escape guards.  Every other occurrence
becomes the annotations of its alignment, or one annotation if words are not aligned. -/
theorem apply_leftmost (f : Form) (t : Text) :
    ∃ pieces, (∀ p, f.LeftmostScan none t p ↔ p = pieces) ∧
      ∀ (aligned : Bool) (fallback : Brackets),
        f.apply aligned fallback t = pieces.flatMap fun
          | .plain c => [c]
          | .found true matched _ => matched
          | .found false _ o =>
              if aligned then fallback.markup (align o.word o.gloss)
              else fallback.ruby o.word o.gloss := by
  refine ⟨f.scan t, fun _ => leftmostScan_iff, fun aligned fallback => ?_⟩
  rw [apply, rewrite]
  refine List.flatMap_congr fun piece _ => ?_
  cases piece with
  | plain c => rfl
  | found escaped matched o =>
      cases escaped with
      | true => rfl
      | false =>
          cases aligned with
          | true => rfl
          | false => simp [Occurrence.segments, Brackets.segment]

/-- Glyphs that are inner characters: an escaped occurrence, one whose word and gloss reach as far as
they can, and one that is aligned. -/
theorem apply_leftmost_inner_glyphs :
    ∃ (f : Form) (t : Text) (pieces : List (Piece Occurrence)),
      f = ⟨⟨'a', 'b'⟩, [], ⟨'c', 'd'⟩⟩ ∧
      t = "\\a1bc2d-a1bcbc2dd-a食べるbcたべるd".toList ∧ f.LeftmostScan none t pieces ∧
      unguarded pieces
        = [⟨"1bc".toList, "2d".toList⟩, ⟨"食べる".toList, "たべる".toList⟩] ∧
      (pieces.flatMap fun
        | .plain c => [c]
        | .found true matched _ => matched
        | .found false _ o => Brackets.lenticular.markup (align o.word o.gloss))
        = "\\a1bc2d-<ruby>1bc<rp>【</rp><rt>2d</rt><rp>】</rp></ruby>".toList
          ++ "-<ruby>食<rp>【</rp><rt>た</rt><rp>】</rp></ruby>べる".toList := by
  let f : Form := ⟨⟨'a', 'b'⟩, [], ⟨'c', 'd'⟩⟩
  let t : Text := "\\a1bc2d-a1bcbc2dd-a食べるbcたべるd".toList
  obtain ⟨pieces, hscan, happly⟩ := apply_leftmost f t
  have hpieces : f.scan t = pieces := (hscan _).1 (leftmostScan_scan f none t)
  have hfound : unguarded (f.scan t)
      = [⟨"1bc".toList, "2d".toList⟩, ⟨"食べる".toList, "たべる".toList⟩] := by decide +kernel
  have hresult : f.apply true .lenticular t
      = "\\a1bc2d-<ruby>1bc<rp>【</rp><rt>2d</rt><rp>】</rp></ruby>".toList
        ++ "-<ruby>食<rp>【</rp><rt>た</rt><rp>】</rp></ruby>べる".toList := by decide +kernel
  exact ⟨f, t, pieces, rfl, rfl, (hscan pieces).2 rfl, hpieces ▸ hfound,
    (happly true .lenticular).symm.trans hresult⟩

end Furigana.Form
