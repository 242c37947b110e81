import Mathlib
import Furigana.Proofs.Form
import Furigana.Proofs.Text

/-!
# The grammar of forms

A form is written `main:separator:gloss` and a list of forms has bars between them.  Cutting a text at
a character is the only way to write it as pieces without that character, so reading and writing undo
each other, for a form as long as no colon stands in its parts, and for a list as long as no bar does
either.  An entry that writes no form is read as the standard one, and takes the place in the list that
a form would take.

* `ofText?_eq_some_iff`, `isSome_ofText?_iff` — which form is read, and from which texts one is read;
* `Reads`, `forall₂_reads_iff` — what the entries of a list are read as;
* `compileList_writeList` — joined forms are read one by one;
* `reading_inverts_writing` — all of it together.
-/

namespace Furigana

/-- A pair is read from two characters. -/
lemma Brackets.isSome_ofText?_iff {t : Text} : (ofText? t).isSome ↔ t.length = 2 := by
  rw [Option.isSome_iff_exists]
  constructor
  · rintro ⟨b, hb⟩
    rw [ofText?_eq_some_iff.1 hb]
    rfl
  · intro h
    obtain ⟨opening, closing, rfl⟩ := List.length_eq_two.1 h
    exact ⟨⟨opening, closing⟩, rfl⟩

namespace Form

variable {f : Form} {forms : List Form} {t entry : Text}

/-- Forms as they are joined in the options. -/
def writeList (forms : List Form) : Text := ['|'].intercalate (forms.map toText)

lemma mem_marks {c : Char} : c ∈ f.marks ↔ c = f.main.opening ∨ c = f.main.closing ∨
    c ∈ f.separator ∨ c = f.gloss.opening ∨ c = f.gloss.closing := by
  simp [marks, middle]

/-! ## One form -/

/-- Texts that write a form: three parts with colons between them and none inside, of which the first
and the last have two characters. -/
def IsWritten (t : Text) : Prop :=
  ∃ main separator gloss, t = main ++ ':' :: separator ++ ':' :: gloss ∧
    ':' ∉ main ∧ ':' ∉ separator ∧ ':' ∉ gloss ∧ main.length = 2 ∧ gloss.length = 2

lemma toText_eq_intercalate (f : Form) :
    f.toText = [':'].intercalate [f.main.toText, f.separator, f.gloss.toText] := by
  simp [toText, List.intercalate]

lemma forall_colon_notMem_iff :
    (∀ part ∈ [f.main.toText, f.separator, f.gloss.toText], ':' ∉ part) ↔ ':' ∉ f.marks := by
  simp [mem_marks, Brackets.toText, not_or, and_assoc]

/-- **Which form is read**: the one that is written so, unless a colon in it is in the way. -/
theorem ofText?_eq_some_iff : ofText? t = some f ↔ t = f.toText ∧ ':' ∉ f.marks := by
  have hpieces : t.pieces (· == ':') = [f.main.toText, f.separator, f.gloss.toText] ↔
      t = f.toText ∧ ':' ∉ f.marks := by
    rw [Text.pieces_eq_iff, ← toText_eq_intercalate, forall_colon_notMem_iff]
    exact and_iff_right (by simp)
  rw [← hpieces, ofText?]
  constructor
  · intro h
    split at h
    · rename_i main separator gloss hparts
      split at h
      · rename_i m g hm hg
        obtain rfl := Option.some.inj h
        rw [hparts, Brackets.ofText?_eq_some_iff.1 hm, Brackets.ofText?_eq_some_iff.1 hg]
      · exact absurd h (by simp)
    · exact absurd h (by simp)
  · intro h
    rw [h]
    rfl

/-- **From which texts a form is read.** -/
theorem isSome_ofText?_iff : (ofText? t).isSome ↔ IsWritten t := by
  rw [Option.isSome_iff_exists]
  constructor
  · rintro ⟨f, hf⟩
    obtain ⟨rfl, hcolon⟩ := ofText?_eq_some_iff.1 hf
    have hparts := forall_colon_notMem_iff.2 hcolon
    exact ⟨f.main.toText, f.separator, f.gloss.toText, rfl, hparts _ (by simp), hparts _ (by simp),
      hparts _ (by simp), rfl, rfl⟩
  · rintro ⟨main, separator, gloss, rfl, hmain, hseparator, hgloss, htwo, htwo'⟩
    obtain ⟨m, hm⟩ := Option.isSome_iff_exists.1 (Brackets.isSome_ofText?_iff.2 htwo)
    obtain ⟨g, hg⟩ := Option.isSome_iff_exists.1 (Brackets.isSome_ofText?_iff.2 htwo')
    obtain rfl := Brackets.ofText?_eq_some_iff.1 hm
    obtain rfl := Brackets.ofText?_eq_some_iff.1 hg
    refine ⟨⟨m, separator, g⟩, ofText?_eq_some_iff.2 ⟨rfl, forall_colon_notMem_iff.1 ?_⟩⟩
    simpa using ⟨hmain, hseparator, hgloss⟩

lemma ofText_toText (hf : ':' ∉ f.marks) : ofText f.toText = f := by
  rw [ofText, ofText?_eq_some_iff.2 ⟨rfl, hf⟩, Option.getD_some]

/-! ## Lists of forms -/

/-- What an entry of a list is read as: the form that it writes, or the standard form if it writes
none. -/
inductive Reads (entry : Text) : Form → Prop
  | own {f : Form} (h : ofText? entry = some f) : Reads entry f
  | standard (h : ¬ IsWritten entry) : Reads entry standard

lemma reads_iff : Reads entry f ↔ f = ofText entry := by
  constructor
  · rintro (h | h)
    · rw [ofText, h, Option.getD_some]
    · rw [← isSome_ofText?_iff, Option.not_isSome_iff_eq_none] at h
      rw [ofText, h, Option.getD_none]
  · rintro rfl
    rw [ofText]
    cases hread : ofText? entry with
    | none => exact .standard fun h => absurd (isSome_ofText?_iff.2 h) (by simp [hread])
    | some f => exact .own hread

lemma forall₂_reads_iff {entries : List Text} :
    List.Forall₂ Reads entries forms ↔ forms = entries.map ofText := by
  have hreads : Reads = fun entry f => f = ofText entry := by
    funext entry f
    exact propext reads_iff
  rw [hreads, eq_comm, ← List.forall₂_eq_eq_eq, List.forall₂_map_left_iff]
  simp only [eq_comm]

/-- The entries of a list are the texts that it is joined from. -/
lemma entries_writeList (hne : forms ≠ []) (h : ∀ f ∈ forms, '|' ∉ f.marks) :
    entries (writeList forms) = forms.map toText := by
  refine Text.pieces_eq_iff.2 ⟨by simpa using hne, rfl, List.forall_mem_map.2 fun f hf => ?_⟩
  have hbar := h f hf
  simp only [mem_marks, not_or] at hbar
  simp [toText, Brackets.toText, hbar]

/-- **Joined forms are read one by one**, without those too large for a matcher. -/
theorem compileList_writeList_eq_filter (hne : forms ≠ [])
    (h : ∀ f ∈ forms, ':' ∉ f.marks ∧ '|' ∉ f.marks) :
    compileList (writeList forms) = forms.filter compiles := by
  have hread : forms.map (ofText ∘ toText) = forms :=
    (List.map_congr_left fun f hf => ofText_toText (h f hf).1).trans (List.map_id forms)
  rw [compileList, entries_writeList hne fun f hf => (h f hf).2, List.map_map, hread]

/-- **Reading inverts writing.**  A form is read from a text exactly if the text has three parts
between colons, the outer ones of two characters, and then writing the form gives the text; a form
without colons in its parts is read from what it is written as.  The matchers of a list are made one
for each entry between bars, in order, from the form that the entry writes or from the standard form if
it writes none, and only those that are too large are left out.  So forms with neither colons nor bars
that are joined to a list are read from it again. -/
theorem reading_inverts_writing :
    (∀ t, (∃ f, ofText? t = some f) ↔ IsWritten t) ∧
    (∀ t f, ofText? t = some f ↔ f.toText = t ∧ ':' ∉ f.marks) ∧
    (∀ list, ∃ entries forms, entries ≠ [] ∧ list = ['|'].intercalate entries ∧
      (∀ entry ∈ entries, '|' ∉ entry) ∧ List.Forall₂ Reads entries forms ∧
      compileList list = forms.filter compiles) ∧
    (∀ forms, forms ≠ [] → (∀ f ∈ forms, f.compiles ∧ ':' ∉ f.marks ∧ '|' ∉ f.marks) →
      compileList (writeList forms) = forms) := by
  refine ⟨fun t => ?_, fun t f => ?_, fun list => ?_, fun forms hne h => ?_⟩
  · rw [← isSome_ofText?_iff, Option.isSome_iff_exists]
  · rw [ofText?_eq_some_iff, eq_comm]
  · obtain ⟨hne, hjoined, hbar⟩ := Text.pieces_eq_iff.1 (rfl : entries list = entries list)
    exact ⟨entries list, (entries list).map ofText, hne, hjoined, hbar, forall₂_reads_iff.2 rfl, rfl⟩
  · rw [compileList_writeList_eq_filter hne fun f hf => (h f hf).2, List.filter_eq_self]
    exact fun f hf => (h f hf).1

/-- Three forms, one of which has no separator and one the glyphs of the standard one. -/
theorem reading_inverts_writing_three_forms :
    ∃ forms : List Form, forms ≠ [] ∧ (∀ f ∈ forms, f.compiles ∧ ':' ∉ f.marks ∧ '|' ∉ f.marks) ∧
      writeList forms = "《》:・:〈〉|[]::\x7b\x7d|[]:~~:()".toList ∧
      compileList "《》:・:〈〉|[]::\x7b\x7d|[]:~~:()".toList = forms := by
  let forms : List Form := [⟨⟨'《', '》'⟩, ['・'], ⟨'〈', '〉'⟩⟩, ⟨⟨'[', ']'⟩, [], ⟨'\x7b', '\x7d'⟩⟩,
    ⟨⟨'[', ']'⟩, ['~', '~'], ⟨'(', ')'⟩⟩]
  have hforms : ∀ f ∈ forms, f.compiles ∧ ':' ∉ f.marks ∧ '|' ∉ f.marks := by decide
  exact ⟨forms, by simp [forms], hforms, rfl,
    reading_inverts_writing.2.2.2 forms (by simp [forms]) hforms⟩

end Form

end Furigana
