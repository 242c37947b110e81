import Mathlib
import Furigana.Text.Quoted
import Furigana.Proofs.Scan

/-!
# Quoted texts

What a message quotes can be read off it.  A quoted character is the character itself, a letter behind
a backslash or a number between braces, and each of these tells where it ends and what it stands for.

* `hexadecimal_injective` — a number is told by its digits;
* `quoteChar_cases`, `quoteChar_append_inj` — the ways to quote a character, and why they do not mix;
* `quoted_append_inj` — **a quoted text ends where it seems to end**.
-/

namespace Furigana.Text

lemma exists_digit_of_mem_hexadecimal {n : Nat} {c : Char} (h : c ∈ hexadecimal n) :
    ∃ k < 16, c = Nat.digitChar k := by
  induction n using Nat.strong_induction_on with
  | _ n ih =>
      rw [hexadecimal] at h
      rcases lt_or_ge n 16 with hn | hn
      · rw [Nat.toDigits_of_lt_base hn] at h
        exact ⟨n, hn, List.mem_singleton.1 h⟩
      · rw [Nat.toDigits_of_base_le (by norm_num) hn] at h
        rcases List.mem_append.1 h with h | h
        · exact ih (n / 16) (by omega) h
        · exact ⟨n % 16, Nat.mod_lt n (by norm_num), List.mem_singleton.1 h⟩

/-- A number is told by its digits. -/
lemma hexadecimal_injective : Function.Injective hexadecimal := by
  have hdigit : ∀ i < 16, ∀ j < 16, Nat.digitChar i = Nat.digitChar j → i = j := by decide
  intro n
  induction n using Nat.strong_induction_on with
  | _ n ih =>
      intro m h
      rw [hexadecimal, hexadecimal] at h
      rcases lt_or_ge n 16 with hn | hn <;> rcases lt_or_ge m 16 with hm | hm
      · rw [Nat.toDigits_of_lt_base hn, Nat.toDigits_of_lt_base hm] at h
        exact hdigit n hn m hm (List.head_eq_of_cons_eq h)
      · rw [Nat.toDigits_of_lt_base hn, Nat.toDigits_of_base_le (by norm_num) hm] at h
        exact absurd (List.append_inj_left' (show [] ++ _ = _ from h) rfl).symm Nat.toDigits_ne_nil
      · rw [Nat.toDigits_of_lt_base hm, Nat.toDigits_of_base_le (by norm_num) hn] at h
        exact absurd (List.append_inj_left' (show _ = [] ++ _ from h) rfl) Nat.toDigits_ne_nil
      · rw [Nat.toDigits_of_base_le (by norm_num) hn, Nat.toDigits_of_base_le (by norm_num) hm] at h
        obtain ⟨hfront, hlast⟩ := List.append_inj' h rfl
        have hquot : n / 16 = m / 16 := ih (n / 16) (by omega) hfront
        have hmod : n % 16 = m % 16 :=
          hdigit _ (Nat.mod_lt n (by norm_num)) _ (Nat.mod_lt m (by norm_num))
            (List.head_eq_of_cons_eq hlast)
        omega

/-- The characters that are quoted by a letter, behind their letters. -/
def lettered : List (Char × Char) :=
  [('"', '"'), ('\\', '\\'), ('n', '\n'), ('r', '\r'), ('t', '\t'), ('0', '\x00')]

/-- The three ways to quote a character. -/
lemma quoteChar_cases (c : Char) :
    (c ≠ '\\' ∧ c ≠ '"' ∧ quoteChar c = [c]) ∨
      (∃ letter, (letter, c) ∈ lettered ∧ quoteChar c = ['\\', letter]) ∨
      quoteChar c = '\\' :: 'u' :: '\x7b' :: (hexadecimal c.toNat ++ ['\x7d']) := by
  rw [quoteChar]
  split_ifs with hquote hback hn hr ht h0
  · exact Or.inr (Or.inl ⟨'"', by simp [hquote, lettered], rfl⟩)
  · exact Or.inr (Or.inl ⟨'\\', by simp [hback, lettered], rfl⟩)
  · exact Or.inr (Or.inl ⟨'n', by simp [hn, lettered], rfl⟩)
  · exact Or.inr (Or.inl ⟨'r', by simp [hr, lettered], rfl⟩)
  · exact Or.inr (Or.inl ⟨'t', by simp [ht, lettered], rfl⟩)
  · exact Or.inr (Or.inl ⟨'0', by simp [h0, lettered], rfl⟩)
  · exact Or.inr (Or.inr rfl)
  · exact Or.inl ⟨hback, hquote, rfl⟩

/-- **A quoted character ends where it seems to end.** -/
lemma quoteChar_append_inj {c d : Char} {t u : Text} (h : quoteChar c ++ t = quoteChar d ++ u) :
    c = d ∧ t = u := by
  have hbrace : ∀ n, ∀ e ∈ hexadecimal n, e != '\x7d' := by
    intro n e he
    obtain ⟨k, hk, rfl⟩ := exists_digit_of_mem_hexadecimal he
    clear he
    revert k
    decide
  have hletter : ∀ e ∈ lettered, e.1 ≠ 'u' := by decide
  have hlettered : ∀ e ∈ lettered, ∀ e' ∈ lettered, e.1 = e'.1 → e.2 = e'.2 := by decide
  rcases quoteChar_cases c with ⟨hc, _, hcq⟩ | ⟨l, hl, hcq⟩ | hcq <;>
    rcases quoteChar_cases d with ⟨hd, _, hdq⟩ | ⟨m, hm, hdq⟩ | hdq <;>
    rw [hcq, hdq] at h
  · simpa using h
  · exact absurd (List.head_eq_of_cons_eq h) hc
  · exact absurd (List.head_eq_of_cons_eq h) hc
  · exact absurd (List.head_eq_of_cons_eq h).symm hd
  · simp only [List.cons_append, List.nil_append, List.cons.injEq, true_and] at h
    exact ⟨hlettered _ hl _ hm h.1, h.2⟩
  · simp only [List.cons_append, List.nil_append, List.cons.injEq, true_and] at h
    exact absurd h.1 (hletter _ hl)
  · exact absurd (List.head_eq_of_cons_eq h).symm hd
  · simp only [List.cons_append, List.nil_append, List.cons.injEq, true_and] at h
    exact absurd h.1.symm (hletter _ hm)
  · simp only [List.cons_append, List.cons.injEq, true_and, List.append_assoc, List.nil_append] at h
    obtain ⟨hcode, hrest⟩ := run_append_inj (hbrace _) (hbrace _) (by simp) (by simp) h
    exact ⟨Char.toNat_inj.1 (hexadecimal_injective hcode), List.tail_eq_of_cons_eq hrest⟩

/-- **A quoted text ends where it seems to end.** -/
theorem quoted_append_inj {t u x y : Text} (h : t.quoted ++ x = u.quoted ++ y) : t = u ∧ x = y := by
  have hquote : ∀ c (z : Text), (quoteChar c ++ z).head? ≠ some '"' := by
    intro c z
    rcases quoteChar_cases c with ⟨_, hc, hq⟩ | ⟨_, _, hq⟩ | hq
    · simpa [hq] using hc
    · simp [hq]
    · simp [hq]
  simp only [quoted, List.cons_append, List.append_assoc, List.nil_append, List.cons.injEq,
    true_and] at h
  induction t generalizing u with
  | nil =>
      cases u with
      | nil => exact ⟨rfl, by simpa using h⟩
      | cons d u =>
          rw [List.flatMap_cons, List.append_assoc] at h
          exact absurd (congrArg List.head? h).symm (hquote d _)
  | cons c t ih =>
      cases u with
      | nil =>
          rw [List.flatMap_cons, List.append_assoc] at h
          exact absurd (congrArg List.head? h) (hquote c _)
      | cons d u =>
          rw [List.flatMap_cons, List.flatMap_cons, List.append_assoc, List.append_assoc] at h
          obtain ⟨rfl, hrest⟩ := quoteChar_append_inj h
          obtain ⟨rfl, hxy⟩ := ih hrest
          exact ⟨rfl, hxy⟩

end Furigana.Text
