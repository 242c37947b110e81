import Mathlib
import Furigana.Text

/-!
# Texts in pieces and in bytes

A text that is cut at a character is joined again from its pieces, and there is no other way to write
it as pieces without that character.

* `pieces_eq_splitOn` — the pieces are what the library cuts a list into;
* `infix_of_mem_pieces`, `not_of_mem_pieces` — what the pieces of a text are made of;
* `pieces_eq_iff` — **a text is cut in one way only**;
* `byteLength_append`, `length_le_byteLength` — the number of bytes of a text;
* `ofUtf8?_toUTF8` — a text is what its own encoded form encodes.
-/

namespace Furigana.Text

/-! ## Pieces -/

/-- The pieces of a text are what the library cuts a list into. -/
lemma pieces_eq_splitOnP (q : Char → Bool) (t : Text) : pieces q t = t.splitOnP q := by
  induction t with
  | nil => rfl
  | cons c t ih =>
      rw [pieces_cons, List.splitOnP_cons_eq_if_modifyHead, ih]
      obtain ⟨piece, more, hmore⟩ := List.exists_cons_of_ne_nil (List.splitOnP_ne_nil q t)
      rw [hmore]
      rfl

lemma pieces_eq_splitOn (c : Char) (t : Text) : pieces (· == c) t = t.splitOn c :=
  pieces_eq_splitOnP _ t

/-- The pieces of a text are stretches of it, the first one at its start. -/
lemma infix_of_mem_pieces {q : Char → Bool} {t piece : Text} (h : piece ∈ pieces q t) :
    piece <:+: t := by
  suffices hpieces : (pieces q t).headD [] <+: t ∧ ∀ piece ∈ pieces q t, piece <:+: t from
    hpieces.2 piece h
  clear h
  induction t with
  | nil => simp
  | cons c t ih =>
      have hlater : ∀ piece ∈ pieces q t, piece <:+: c :: t :=
        fun piece hp => (ih.2 piece hp).trans (List.suffix_cons c t).isInfix
      rw [pieces_cons]
      split_ifs
      · exact ⟨List.prefix_append [] _, List.forall_mem_cons.2 ⟨⟨[], c :: t, rfl⟩, hlater⟩⟩
      · have hhead : c :: (pieces q t).headD [] <+: c :: t :=
          (List.prefix_cons_inj c).2 ih.1
        exact ⟨hhead, List.forall_mem_cons.2
          ⟨hhead.isInfix, fun piece hp => hlater piece (List.mem_of_mem_tail hp)⟩⟩

/-- No piece holds a character that the text is cut at. -/
lemma not_of_mem_pieces {q : Char → Bool} {t piece : Text} (h : piece ∈ pieces q t) :
    ∀ c ∈ piece, ¬ q c := by
  induction t generalizing piece with
  | nil =>
      obtain rfl := List.mem_singleton.1 h
      simp
  | cons d t ih =>
      rw [pieces_cons] at h
      split_ifs at h with hd
      · rcases List.mem_cons.1 h with rfl | h
        · simp
        · exact ih h
      · rcases List.mem_cons.1 h with rfl | h
        · obtain ⟨first, more, hmore⟩ := List.exists_cons_of_ne_nil (pieces_ne_nil q t)
          rw [hmore]
          exact List.forall_mem_cons.2 ⟨hd, ih (by simp [hmore])⟩
        · exact ih (List.mem_of_mem_tail h)

/-- **A text is cut in one way only**: into the pieces without the character that it is joined from. -/
lemma pieces_eq_iff {c : Char} {t : Text} {parts : List Text} :
    pieces (· == c) t = parts ↔ parts ≠ [] ∧ t = [c].intercalate parts ∧ ∀ part ∈ parts, c ∉ part := by
  constructor
  · rintro rfl
    refine ⟨pieces_ne_nil _ t, ?_, fun part hpart hc => not_of_mem_pieces hpart c hc (by simp)⟩
    rw [pieces_eq_splitOn, List.intercalate_splitOn]
  · rintro ⟨hne, rfl, hnot⟩
    rw [pieces_eq_splitOn, List.splitOn_intercalate c hnot hne]

lemma utf8_append (a t : Text) : utf8 (a ++ t) = utf8 a ++ utf8 t := List.flatMap_append

lemma byteLength_eq_length_utf8 (t : Text) : byteLength t = (utf8 t).length := by
  suffices h : ∀ n, t.foldl (fun n c => n + c.utf8Size) n = n + (utf8 t).length from
    (h 0).trans (Nat.zero_add _)
  induction t with
  | nil => simp [utf8]
  | cons c t ih =>
      intro n
      rw [List.foldl_cons, ih, utf8, utf8, List.flatMap_cons, List.length_append,
        String.length_utf8EncodeChar, Nat.add_assoc]

lemma byteLength_append (a t : Text) : byteLength (a ++ t) = byteLength a + byteLength t := by
  simp only [byteLength_eq_length_utf8, utf8_append, List.length_append]

/-- Every character takes a byte. -/
lemma length_le_byteLength (t : Text) : t.length ≤ byteLength t := by
  induction t with
  | nil => exact Nat.zero_le _
  | cons c t ih =>
      have hcons : byteLength (c :: t) = 0 + c.utf8Size + byteLength t := byteLength_append [c] t
      have hsize := Char.utf8Size_pos c
      rw [List.length_cons]
      omega

/-- A text is read back from its encoded form. -/
lemma ofUtf8?_toUTF8 (t : Text) : ofUtf8? (String.ofList t).toUTF8 = some t := by
  rw [ofUtf8?, String.fromUTF8?, String.toUTF8_eq_toByteArray,
    dif_pos (String.ofList t).isValidUTF8,
    Option.map_some]
  exact congrArg some String.toList_ofList

end Furigana.Text
