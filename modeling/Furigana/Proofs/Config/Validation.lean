import Mathlib
import Furigana.Config.Validation
import Furigana.Proofs.Form.Grammar
import Furigana.Proofs.Text.Quoted

/-!
# What validation promises

A conversion reads malformed options as defaults.  Validation passes the options for which it never
does, so that the fallback, the pairs and the forms in use, written out again, are the parts of the
options.  A form whose separator is too long for a matcher is the one thing that validation does not
look at: such a form is left out, and nothing stands in for it.

Otherwise the first malformed part is reported.  The message names the option and quotes the part, so it
tells which part it is.

* `Options.UsedAsWritten` — the parts of the options are used as they are written;
* `Options.Offends` — the first malformed part;
* `Options.invalid?_eq_none_iff`, `Options.invalid?_eq_some_iff` — what validation finds;
* `Invalid.exists_message_eq`, `Invalid.message_injective` — what a message tells;
* `Options.validates_iff` — **validation and conversion agree**, but for forms that are too large.
-/

namespace Furigana

/-! ## Messages -/

namespace Invalid

/-- The option that a part belongs to. -/
def field : Invalid → String
  | .fallback _ => "furigana.fallback_brackets"
  | .pair _ => "furigana.auto_bracket_sets entry"
  | .form _ => "furigana.forms entry"

/-- The malformed part, as it is written in the options. -/
def value : Invalid → Text
  | .fallback t => t
  | .pair t => t
  | .form t => t

lemma message_fallback (t : Text) : (fallback t).message =
    "furigana.fallback_brackets must be exactly two characters, got ".toList ++ t.quoted := rfl

lemma message_pair (t : Text) : (pair t).message =
    "furigana.auto_bracket_sets entry must be exactly two characters, got ".toList ++ t.quoted := rfl

lemma message_form (t : Text) : (form t).message = "furigana.forms entry ".toList ++ t.quoted
    ++ " must be `main:separator:gloss` with two-character brackets".toList := rfl

/-- **The message names the option and quotes the part.** -/
lemma exists_message_eq (part : Invalid) :
    ∃ words more, part.message = part.field.toList ++ words ++ part.value.quoted ++ more := by
  cases part with
  | fallback t =>
      refine ⟨" must be exactly two characters, got ".toList, [], ?_⟩
      rw [message_fallback, field, value, ← String.toList_append, List.append_nil]
      rfl
  | pair t =>
      refine ⟨" must be exactly two characters, got ".toList, [], ?_⟩
      rw [message_pair, field, value, ← String.toList_append, List.append_nil]
      rfl
  | form t =>
      refine ⟨" ".toList, " must be `main:separator:gloss` with two-character brackets".toList, ?_⟩
      rw [message_form, field, value, ← String.toList_append]
      rfl

/-- The first letters of a message tell which option it is about. -/
lemma take_message (part : Invalid) : part.message.take 11 = part.field.toList.take 11 := by
  have hlength : 11 ≤ part.field.toList.length := by
    cases part <;> rw [field] <;> decide
  obtain ⟨words, more, hmessage⟩ := part.exists_message_eq
  rw [hmessage, List.append_assoc, List.append_assoc, List.take_append_of_le_length hlength]

/-- **The message tells the part.** -/
theorem message_injective : Function.Injective message := by
  intro part part' h
  have hfield : part.field.toList.take 11 = part'.field.toList.take 11 := by
    rw [← take_message, ← take_message, h]
  cases part with
  | fallback t =>
      cases part' with
      | fallback u =>
          rw [message_fallback, message_fallback, List.append_right_inj] at h
          rw [(Text.quoted_append_inj (congrArg (· ++ []) h)).1]
      | pair u => exact absurd hfield (by rw [field, field]; decide)
      | form u => exact absurd hfield (by rw [field, field]; decide)
  | pair t =>
      cases part' with
      | fallback u => exact absurd hfield (by rw [field, field]; decide)
      | pair u =>
          rw [message_pair, message_pair, List.append_right_inj] at h
          rw [(Text.quoted_append_inj (congrArg (· ++ []) h)).1]
      | form u => exact absurd hfield (by rw [field, field]; decide)
  | form t =>
      cases part' with
      | fallback u => exact absurd hfield (by rw [field, field]; decide)
      | pair u => exact absurd hfield (by rw [field, field]; decide)
      | form u =>
          rw [message_form, message_form, List.append_assoc, List.append_assoc,
            List.append_right_inj] at h
          rw [(Text.quoted_append_inj h).1]

end Invalid

/-! ## What is found -/

/-- A part that is read as it is written is well formed, and the other way round. -/
lemma Brackets.toText_ofText_eq_iff {t : Text} : (ofText t).toText = t ↔ t.length = 2 := by
  rw [ofText]
  constructor
  · intro h
    rw [← h]
    rfl
  · intro h
    obtain ⟨b, hb⟩ := Option.isSome_iff_exists.1 (isSome_ofText?_iff.2 h)
    rw [hb, Option.getD_some, ofText?_eq_some_iff.1 hb]

lemma Form.toText_ofText_eq_iff {t : Text} : (ofText t).toText = t ↔ IsWritten t := by
  rw [← isSome_ofText?_iff]
  constructor
  · intro h
    cases hread : ofText? t with
    | some f => rfl
    | none =>
        -- what is read is the standard form, and the text that writes it is well formed
        rw [ofText, hread, Option.getD_none] at h
        rw [← h, ofText?_eq_some_iff.2 ⟨rfl, by decide⟩] at hread
        exact absurd hread (by simp)
  · intro h
    obtain ⟨f, hf⟩ := Option.isSome_iff_exists.1 h
    rw [ofText, hf, Option.getD_some, (ofText?_eq_some_iff.1 hf).1]

/-- The standard form, which stands in for malformed ones, is not too large. -/
lemma Form.isWritten_of_not_compiles {t : Text} (h : ¬ (ofText t).compiles) : IsWritten t := by
  rw [← isSome_ofText?_iff]
  cases hread : ofText? t with
  | some f => rfl
  | none =>
      rw [ofText, hread, Option.getD_none] at h
      exact absurd (by decide) h

/-- A matcher takes memory for every character of the separator. -/
lemma Form.not_compiles_of_length {f : Form} (h : matcherLimit < 32 * f.separator.length) :
    ¬ f.compiles := by
  have hbytes := Text.length_le_byteLength f.separator
  rw [compiles, decide_eq_true_eq, matcherSize, Text.byteLength_append, Text.byteLength_append]
  omega

namespace Options

variable {o : Options} {part : Invalid}

/-- The first malformed entry of a list. -/
def IsFirstMalformed (wellFormed : Text → Prop) (entries : List Text) (entry : Text) : Prop :=
  ∃ front rest, entries = front ++ entry :: rest ∧ (∀ e ∈ front, wellFormed e) ∧ ¬ wellFormed entry

section Search

variable {α : Type} {read : Text → Option α} {wellFormed : Text → Prop} {entries : List Text}
  {entry : Text} (hread : ∀ t, (read t).isSome ↔ wellFormed t)

include hread

lemma isNone_iff_malformed (t : Text) : (read t).isNone ↔ ¬ wellFormed t := by
  rw [← hread, Bool.not_eq_true, Option.isSome_eq_false_iff]

/-- A search for an entry that is not read finds the first malformed one. -/
lemma find?_isNone_eq_some_iff : (entries.find? fun t => (read t).isNone) = some entry ↔
    IsFirstMalformed wellFormed entries entry := by
  rw [List.find?_eq_some_iff_append, IsFirstMalformed]
  constructor
  · rintro ⟨hentry, front, rest, hentries, hfront⟩
    refine ⟨front, rest, hentries, fun e he => (hread e).1 ?_,
      (isNone_iff_malformed hread entry).1 hentry⟩
    simpa using hfront e he
  · rintro ⟨front, rest, hentries, hfront, hentry⟩
    refine ⟨(isNone_iff_malformed hread entry).2 hentry, front, rest, hentries, fun e he => ?_⟩
    simpa using (hread e).2 (hfront e he)

lemma find?_isNone_eq_none_iff :
    (entries.find? fun t => (read t).isNone) = none ↔ ∀ e ∈ entries, wellFormed e := by
  rw [List.find?_eq_none]
  exact forall₂_congr fun e _ => by rw [isNone_iff_malformed hread, not_not]

end Search

/-- The parts of the options are used as they are written: the fallback, the pairs and the forms in use
write the text of the options again.  Forms too large for a matcher are not in use. -/
structure UsedAsWritten (o : Options) : Prop where
  fallback : o.fallback.toText = o.fallbackBrackets
  pairs : (Brackets.compileList o.autoBracketSets).map Brackets.toText
    = Brackets.entries o.autoBracketSets
  forms : (Form.compileList o.forms).map Form.toText
    = (Form.entries o.forms).filter fun entry => (Form.ofText entry).compiles

/-- The part that is reported: the first one that is malformed, of the fallback, the pairs and the
forms, each list from left to right. -/
inductive Offends (o : Options) : Invalid → Prop
  | fallback (h : o.fallbackBrackets.length ≠ 2) : Offends o (.fallback o.fallbackBrackets)
  | pair {entry : Text} (hfallback : o.fallbackBrackets.length = 2)
      (h : IsFirstMalformed (·.length = 2) (Brackets.entries o.autoBracketSets) entry) :
      Offends o (.pair entry)
  | form {entry : Text} (hfallback : o.fallbackBrackets.length = 2)
      (hpairs : ∀ e ∈ Brackets.entries o.autoBracketSets, e.length = 2)
      (h : IsFirstMalformed Form.IsWritten (Form.entries o.forms) entry) : Offends o (.form entry)

lemma isNone_fallback_iff :
    (Brackets.ofText? o.fallbackBrackets).isNone ↔ o.fallbackBrackets.length ≠ 2 :=
  isNone_iff_malformed (fun _ => Brackets.isSome_ofText?_iff) o.fallbackBrackets

/-- **The first malformed part is found.** -/
theorem invalid?_eq_some_iff : o.invalid? = some part ↔ o.Offends part := by
  rw [invalid?]
  constructor
  · intro h
    split_ifs at h with hnone
    · obtain rfl := Option.some.inj h
      exact .fallback (isNone_fallback_iff.1 hnone)
    · have htwo : o.fallbackBrackets.length = 2 := not_not.1 (mt isNone_fallback_iff.2 hnone)
      split at h
      · rename_i entry hfind
        obtain rfl := Option.some.inj h
        exact .pair htwo ((find?_isNone_eq_some_iff fun _ => Brackets.isSome_ofText?_iff).1 hfind)
      · rename_i hpairs
        obtain ⟨entry, hfind, rfl⟩ := Option.map_eq_some_iff.1 h
        exact .form htwo ((find?_isNone_eq_none_iff fun _ => Brackets.isSome_ofText?_iff).1 hpairs)
          ((find?_isNone_eq_some_iff fun _ => Form.isSome_ofText?_iff).1 hfind)
  · intro h
    cases h with
    | fallback h => rw [if_pos (isNone_fallback_iff.2 h)]
    | pair htwo h =>
        rw [if_neg (mt isNone_fallback_iff.1 (not_not.2 htwo)),
          (find?_isNone_eq_some_iff fun _ => Brackets.isSome_ofText?_iff).2 h]
    | form htwo hpairs h =>
        rw [if_neg (mt isNone_fallback_iff.1 (not_not.2 htwo)),
          (find?_isNone_eq_none_iff fun _ => Brackets.isSome_ofText?_iff).2 hpairs,
          (find?_isNone_eq_some_iff fun _ => Form.isSome_ofText?_iff).2 h, Option.map_some]

/-- **Nothing is found** if no part is malformed. -/
theorem invalid?_eq_none_iff : o.invalid? = none ↔ o.fallbackBrackets.length = 2 ∧
    (∀ e ∈ Brackets.entries o.autoBracketSets, e.length = 2) ∧
    ∀ e ∈ Form.entries o.forms, Form.IsWritten e := by
  rw [invalid?, ← find?_isNone_eq_none_iff fun _ => Brackets.isSome_ofText?_iff,
    ← find?_isNone_eq_none_iff fun _ => Form.isSome_ofText?_iff]
  split_ifs with hnone
  · exact iff_of_false (by simp) fun h => isNone_fallback_iff.1 hnone h.1
  · rw [and_iff_right (not_not.1 (mt isNone_fallback_iff.2 hnone))]
    cases (Brackets.entries o.autoBracketSets).find? fun t => (Brackets.ofText? t).isNone with
    | none => simp
    | some entry => simp

lemma map_eq_self_iff {φ : Text → Text} {entries : List Text} :
    entries.map φ = entries ↔ ∀ e ∈ entries, φ e = e := by
  conv_lhs => rw [← List.map_id entries, List.map_map]
  rw [List.map_inj_left]
  rfl

/-- The pairs in use write the entries again exactly if every entry is a pair. -/
lemma pairs_toText_iff {list : Text} :
    (Brackets.compileList list).map Brackets.toText = Brackets.entries list ↔
      ∀ e ∈ Brackets.entries list, e.length = 2 := by
  rw [Brackets.compileList, List.map_map, map_eq_self_iff]
  exact forall₂_congr fun e _ => Brackets.toText_ofText_eq_iff

/-- The forms in use write the entries again exactly if every entry writes a form.  The entries that are
left out write one, since the standard form would not have been left out. -/
lemma forms_toText_iff {list : Text} :
    (Form.compileList list).map Form.toText
        = ((Form.entries list).filter fun entry => (Form.ofText entry).compiles) ↔
      ∀ e ∈ Form.entries list, Form.IsWritten e := by
  have hfilter : Form.compileList list
      = ((Form.entries list).filter fun entry => (Form.ofText entry).compiles).map Form.ofText := by
    rw [Form.compileList, List.filter_map, Function.comp_def]
  rw [hfilter, List.map_map, map_eq_self_iff]
  refine forall_congr' fun e => ?_
  rw [List.mem_filter, and_imp]
  refine forall_congr' fun _ => ⟨fun h => ?_, fun h _ => Form.toText_ofText_eq_iff.2 h⟩
  by_cases hcompiles : (Form.ofText e).compiles
  · exact Form.toText_ofText_eq_iff.1 (h hcompiles)
  · exact Form.isWritten_of_not_compiles hcompiles

/-- Options are used as they are written exactly if no part of them is malformed. -/
theorem usedAsWritten_iff : o.UsedAsWritten ↔ o.fallbackBrackets.length = 2 ∧
    (∀ e ∈ Brackets.entries o.autoBracketSets, e.length = 2) ∧
    ∀ e ∈ Form.entries o.forms, Form.IsWritten e := by
  rw [← pairs_toText_iff, ← forms_toText_iff, ← Brackets.toText_ofText_eq_iff]
  exact ⟨fun h => ⟨h.fallback, h.pairs, h.forms⟩, fun h => ⟨h.1, h.2.1, h.2.2⟩⟩

lemma invalid?_eq_none_iff_usedAsWritten : o.invalid? = none ↔ o.UsedAsWritten :=
  invalid?_eq_none_iff.trans usedAsWritten_iff.symm

/-- **Validation and conversion agree.**  Options pass exactly if they are used as they are written, so
that no default takes the place of a part; only forms too large for a matcher are left out.  Otherwise
the first malformed part is found, the fallback before the pairs and the pairs before the forms, and
the message names the option, quotes the part and tells it from every other. -/
theorem validates_iff (o : Options) :
    (o.invalid? = none ↔ o.UsedAsWritten) ∧ (∀ part, o.invalid? = some part ↔ o.Offends part) ∧
    (∀ part : Invalid, ∃ words more,
      part.message = part.field.toList ++ words ++ part.value.quoted ++ more) ∧
    Function.Injective Invalid.message :=
  ⟨invalid?_eq_none_iff_usedAsWritten, fun _ => invalid?_eq_some_iff,
    Invalid.exists_message_eq, Invalid.message_injective⟩

/-- A form with a separator of a million letters passes, but no matcher is made for it: what is in use
is not what is written. -/
theorem valid_with_form_left_out :
    ∃ o : Options, o = { Options.standard with
        forms := "[]:".toList ++ List.replicate 1000000 'x' ++ ":()".toList } ∧
      o.invalid? = none ∧ Form.compileList o.forms = [] ∧
      (Form.compileList o.forms).map Form.toText ≠ Form.entries o.forms := by
  let f : Form := ⟨⟨'[', ']'⟩, List.replicate 1000000 'x', ⟨'(', ')'⟩⟩
  have hmarks : ∀ c ∈ f.marks, c ∈ ['[', ']', 'x', '(', ')'] := by
    intro c hc
    simp only [Form.mem_marks, f, List.mem_replicate] at hc
    rcases hc with rfl | rfl | ⟨_, rfl⟩ | rfl | rfl <;> decide
  have hcolon : ':' ∉ f.marks := fun h => absurd (hmarks _ h) (by decide)
  have hbar : '|' ∉ f.marks := fun h => absurd (hmarks _ h) (by decide)
  have hlarge : ¬ f.compiles := Form.not_compiles_of_length (by
    rw [List.length_replicate, Form.matcherLimit]
    norm_num)
  have hlist : Form.writeList [f] = f.toText := by simp [Form.writeList]
  have hforms : "[]:".toList ++ List.replicate 1000000 'x' ++ ":()".toList = f.toText := rfl
  have hnone : Form.compileList f.toText = [] := by
    rw [← hlist, Form.compileList_writeList_eq_filter (by simp) (by simp [hcolon, hbar])]
    simp [hlarge]
  have hentries : Form.entries (Form.writeList [f]) = [f].map Form.toText :=
    Form.entries_writeList (by simp) (by simp [hbar])
  rw [hlist, List.map_singleton] at hentries
  refine ⟨_, rfl, ?_, ?_, ?_⟩
  · rw [hforms]
    refine invalid?_eq_none_iff.2 ⟨rfl, ?_, ?_⟩
    · exact (by decide : ∀ e ∈ Brackets.entries defaultAutoBracketSets, e.length = 2)
    · rw [hentries, List.forall_mem_singleton]
      exact Form.isSome_ofText?_iff.1 (by rw [Form.ofText?_eq_some_iff.2 ⟨rfl, hcolon⟩]; rfl)
  · rw [hforms]
    exact hnone
  · rw [hforms]
    simp [hnone, hentries]

end Options

end Furigana
