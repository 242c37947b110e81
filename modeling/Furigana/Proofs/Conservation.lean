import Mathlib
import Furigana.Proofs.Tree

/-!
# Passes keep the base text

A pass puts annotations in the place of words.  Deleting every `rp` and `rt` element and every
`ruby` tag from what it writes leaves the text that was scanned, where the occurrences that no
escape guards have lost their marks and their gloss.  How a gloss is distributed over its word makes
no difference, because every way of cutting a word keeps all of it.

* `Piece.Fits`, `Scans` — a text cut at its occurrences, from left to right;
* `scans_scan` — a scan cuts a text so;
* `Markup.base_ofPieces` — the base of a tree that replaces occurrences;
* `base_apply` — what the passes of forms and of pairs leave.
-/

namespace Furigana

/-! ## What a scan cuts a text into -/

section Scans

variable {α : Type} {find : Text → Option (α × Text)} {before : Option Char} {t : Text}
  {piece : Piece α} {pieces : List (Piece α)}

/-- Whether a piece may stand behind a character and in front of a text.  Nothing is found at a
plain character.  An occurrence takes up what the search finds at it, and it is escaped exactly if
it holds an escape or directly follows one. -/
def Piece.Fits (find : Text → Option (α × Text)) (before : Option Char) (after : Text) :
    Piece α → Prop
  | .plain c => find (c :: after) = none
  | .found escaped matched a => find (matched ++ after) = some (a, matched) ∧
      (escaped = true ↔ escapeChar ∈ matched ∨ before = some escapeChar)

/-- A text cut into plain characters and the occurrences that are found from left to right, where
`before` stands in front of the text. -/
structure Scans (find : Text → Option (α × Text)) (before : Option Char) (t : Text)
    (pieces : List (Piece α)) : Prop where
  text : pieces.flatMap Piece.text = t
  fits : ∀ front piece rest, pieces = front ++ piece :: rest →
    piece.Fits find (behind before (front.flatMap Piece.text)) (rest.flatMap Piece.text)

lemma scans_nil (before : Option Char) : Scans find before [] [] :=
  ⟨rfl, fun front piece rest h => absurd h (by simp)⟩

/-- A piece in front of a text that is cut. -/
lemma Scans.cons (hpiece : piece.Fits find before t)
    (h : Scans find (behind before piece.text) t pieces) :
    Scans find before (piece.text ++ t) (piece :: pieces) where
  text := by rw [List.flatMap_cons, h.text]
  fits := by
    refine forall_split_cons ?_ fun front next rest hsplit => ?_
    · rwa [h.text]
    · rw [List.flatMap_cons, behind_append]
      exact h.fits front next rest hsplit

/-- **A scan cuts a text at its occurrences.** -/
theorem scans_scan (hfind : IsSearch find) (before : Option Char) (t : Text) :
    Scans find before t (scan find before t) := by
  refine pass_induction hfind (motive := fun before t => Scans find before t (scan find before t))
    ?_ ?_ ?_ before t
  · intro before
    rw [scan_nil]
    exact scans_nil before
  · intro before c t hnone ih
    rw [scan_cons hnone]
    have hfits : (Piece.plain c : Piece α).Fits find before t := hnone
    exact Scans.cons hfits ih
  · intro before matched t a hsome hne ih
    rw [scan_append_found hsome hne]
    have hfits : (Piece.found (isEscaped before matched) matched a).Fits find before t :=
      ⟨hsome, isEscaped_iff⟩
    exact Scans.cons hfits ih

lemma Scans.exists_find_eq_some (h : Scans find before t pieces) {escaped : Bool} {matched : Text}
    {a : α} (hmem : .found escaped matched a ∈ pieces) :
    ∃ rest, find (matched ++ rest) = some (a, matched) := by
  obtain ⟨front, rest, hsplit⟩ := List.append_of_mem hmem
  exact ⟨_, (h.fits front _ rest hsplit).1⟩

end Scans

/-! ## What a pass leaves -/

/-- The base of a tree of pieces, if every replacement has its word as base. -/
lemma Markup.base_ofPieces {α : Type} {replace : α → Markup} {word : α → Text}
    (h : ∀ a, (replace a).base = word a) (pieces : List (Piece α)) :
    (Markup.ofPieces replace pieces).base = rewrite word pieces := by
  induction pieces with
  | nil => rfl
  | cons piece pieces ih =>
      cases piece with
      | plain c => simp [Markup.ofPieces, ih, rewrite, Markup.base]
      | found escaped matched a =>
          cases escaped <;> simp [Markup.ofPieces, ih, rewrite, Markup.base, h]

/-- A detected word without its gloss and its brackets. -/
def Detection.word (d : Detection) : Text := d.boundary ++ d.base ++ d.suffix

variable {fallback : Brackets} {t : Text}

lemma Form.base_tree (f : Form) (aligned : Bool) (fallback : Brackets) (t : Text) :
    (f.tree aligned fallback t).base = rewrite Occurrence.word (f.scan t) :=
  Markup.base_ofPieces
    (fun o => by rw [Markup.base_ofSegments, Occurrence.flatMap_base_segments]) _

lemma Brackets.base_tree (b : Brackets) (aligned : Bool) (fallback : Brackets) (t : Text) :
    (b.tree aligned fallback t).base = rewrite Detection.word (b.scan t) := by
  refine Markup.base_ofPieces (fun d => ?_) _
  rw [Detection.tree, Markup.base_append, Markup.base, Markup.base_ofSegments,
    Detection.flatMap_base_segments, Detection.word, List.append_assoc]

/-- **Passes keep the base text.**  Let neither text nor fallback glyphs hold a `<`.  What the pass
of any form or pair writes is the writing of a tree, and its base is the text in which every
occurrence that is not escaped is replaced by its word.  Neither the occurrences nor the base depend
on whether glosses are aligned. -/
theorem base_apply (hopening : fallback.opening ≠ '<') (hclosing : fallback.closing ≠ '<')
    (ht : '<' ∉ t) :
    (∀ f : Form, Scans f.find none t (f.scan t) ∧
      (∀ escaped matched o, .found escaped matched o ∈ f.scan t → matched = f.write o) ∧
      ∀ aligned, ∃ m, Reads (f.apply aligned fallback t) m ∧
        m.base = rewrite Form.Occurrence.word (f.scan t)) ∧
    ∀ b : Brackets, Scans b.detect none t (b.scan t) ∧
      (∀ escaped matched d, .found escaped matched d ∈ b.scan t → matched = b.write d) ∧
      ∀ aligned, ∃ m, Reads (b.apply aligned fallback t) m ∧
        m.base = rewrite Detection.word (b.scan t) := by
  have hangle : ∀ c ∈ t, c ≠ '<' := fun c hc heq => ht (heq ▸ hc)
  refine ⟨fun f => ?_, fun b => ?_⟩
  · have hscans := scans_scan (Form.isSearch_find f) none t
    refine ⟨hscans, fun escaped matched o hmem => ?_, fun aligned => ?_⟩
    · obtain ⟨rest, hfind⟩ := hscans.exists_find_eq_some hmem
      exact (Form.find_eq_some hfind).1
    · exact ⟨f.tree aligned fallback t,
        ⟨Form.over_tree hopening hclosing hangle, f.toText_tree aligned fallback t⟩,
        f.base_tree aligned fallback t⟩
  · have hscans := scans_scan (Brackets.isSearch_detect b) none t
    refine ⟨hscans, fun escaped matched d hmem => ?_, fun aligned => ?_⟩
    · obtain ⟨rest, hfind⟩ := hscans.exists_find_eq_some hmem
      exact (Brackets.detect_eq_some hfind).1
    · exact ⟨b.tree aligned fallback t,
        ⟨Brackets.over_tree hopening hclosing hangle, b.toText_tree aligned fallback t⟩,
        b.base_tree aligned fallback t⟩

/-- An escaped form, one that is cut at its kana, and a word with a reading for each character.  A
fallback glyph is a tag's end. -/
theorem base_apply_around_escape :
    ∃ (fallback : Brackets) (t : Text), fallback = ⟨'>', '('⟩ ∧ '<' ∉ t ∧
      t = "\\[字]^(じ)と[食べ物]^(たべもの)、東京都【とう.きょう.と】".toList ∧
      (∀ aligned, ∃ m, Reads (Form.standard.apply aligned fallback t) m ∧
        m.base = "\\[字]^(じ)と食べ物、東京都【とう.きょう.と】".toList) ∧
      ∀ aligned, ∃ m, Reads (Brackets.lenticular.apply aligned fallback t) m ∧
        m.base = "\\[字]^(じ)と[食べ物]^(たべもの)、東京都".toList := by
  let fallback : Brackets := ⟨'>', '('⟩
  let t : Text := "\\[字]^(じ)と[食べ物]^(たべもの)、東京都【とう.きょう.と】".toList
  have hopening : fallback.opening ≠ '<' := by decide
  have hclosing : fallback.closing ≠ '<' := by decide
  have ht : '<' ∉ t := by decide
  obtain ⟨hforms, hpairs⟩ := base_apply hopening hclosing ht
  obtain ⟨_, _, hform⟩ := hforms .standard
  obtain ⟨_, _, hpair⟩ := hpairs .lenticular
  have hword : rewrite Form.Occurrence.word (Form.standard.scan t)
      = "\\[字]^(じ)と食べ物、東京都【とう.きょう.と】".toList := by decide +kernel
  have hdetected : rewrite Detection.word (Brackets.lenticular.scan t)
      = "\\[字]^(じ)と[食べ物]^(たべもの)、東京都".toList := by decide +kernel
  exact ⟨fallback, t, rfl, ht, rfl, hword ▸ hform, hdetected ▸ hpair⟩

end Furigana
