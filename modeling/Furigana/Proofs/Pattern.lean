import Mathlib
import Furigana.Pattern

/-!
# What a source says

A source is read character by character, except that a backslash and the character behind it belong
together.  Every character of a glyph or a separator is one such token in the source of a form, and
none of them has a meaning of its own there, so nothing that is configured can be taken for a part of
the expression.  In particular the groups stand where they are expected, and what stands around them
is the form.

* `tokens`, `flatMap_text_tokens`, `tokens_append` — a source in plain and escaped characters;
* `literalToken`, `tokens_char_append`, `literalToken_ne_plain` — the one token of a character;
* `tokens_form`, `splitOnP_form` — the tokens of a form, and what the parentheses cut them into;
* `readForm?`, `readForm?_form` — the form that a source was written for;
* **`source_unambiguous`** — sources tell forms and pairs apart.
-/

namespace Furigana.Pattern

variable {c d : Char} {t u : Text}

/-! ## Tokens -/

/-- A character of a source, alone or behind the backslash that escapes it. -/
inductive Token where
  | plain (c : Char)
  | escaped (c : Char)
deriving DecidableEq, Repr

/-- The character of a token. -/
def Token.char : Token → Char
  | plain c => c
  | escaped c => c

/-- A token as it stands in a source. -/
def Token.text : Token → Text
  | plain c => [c]
  | escaped c => ['\\', c]

/-- Whether a token opens or closes a group. -/
def Token.isParenthesis (token : Token) : Bool := token == plain '(' || token == plain ')'

/-- A source cut into tokens.  A backslash that nothing follows is a token of its own. -/
def tokens : Text → List Token
  | '\\' :: c :: t => .escaped c :: tokens t
  | c :: t => .plain c :: tokens t
  | [] => []

/-- The tokens of a source make up the source. -/
lemma flatMap_text_tokens (source : Text) : (tokens source).flatMap Token.text = source := by
  fun_induction tokens source with
  | case1 c t ih => simp [Token.text, ih]
  | case2 c t _ ih => simp [Token.text, ih]
  | case3 => rfl

lemma tokens_cons_of_ne (hc : c ≠ '\\') (t : Text) : tokens (c :: t) = .plain c :: tokens t := by
  rw [tokens]
  exact fun _ _ h _ => hc h

/-- A source that does not end with half an escape can be continued. -/
lemma tokens_append (h : .plain '\\' ∉ tokens t) (u : Text) :
    tokens (t ++ u) = tokens t ++ tokens u := by
  fun_induction tokens t with
  | case1 c t ih =>
      have htail : .plain '\\' ∉ tokens t := fun hmem => h (List.mem_cons_of_mem _ hmem)
      rw [List.cons_append, List.cons_append, tokens, ih htail, List.cons_append]
  | case2 c t hpair ih =>
      -- a backslash that escapes nothing would be a token
      have hc : c ≠ '\\' := by
        rintro rfl
        exact h (by simp)
      have htail : .plain '\\' ∉ tokens t := fun hmem => h (List.mem_cons_of_mem _ hmem)
      rw [List.cons_append, tokens_cons_of_ne hc, ih htail, List.cons_append]
  | case3 => rfl

/-- The token of a character that stands for itself. -/
def literalToken (c : Char) : Token :=
  if metacharacters.contains c then .escaped c else .plain c

lemma char_literalToken (c : Char) : (literalToken c).char = c := by
  rw [literalToken]
  split_ifs <;> rfl

lemma literalToken_injective : Function.Injective literalToken :=
  Function.LeftInverse.injective char_literalToken

/-- No character that stands for itself has a meaning. -/
lemma literalToken_ne_plain {m : Char} (hm : m ∈ metacharacters) (c : Char) :
    literalToken c ≠ .plain m := by
  rw [literalToken]
  split_ifs with hc
  · simp
  · intro heq
    obtain rfl := Token.plain.inj heq
    exact hc (by simpa using hm)

lemma not_isParenthesis_literalToken (c : Char) : ¬ (literalToken c).isParenthesis := by
  have hopening := literalToken_ne_plain (m := '(') (by decide) c
  have hclosing := literalToken_ne_plain (m := ')') (by decide) c
  simp [Token.isParenthesis, hopening, hclosing]

/-- **A character is one token of its source.** -/
lemma tokens_char_append (c : Char) (t : Text) :
    tokens (char c ++ t) = literalToken c :: tokens t := by
  rw [char, literalToken]
  split_ifs with hc
  · rw [List.cons_append, List.cons_append, List.nil_append, tokens]
  · have hne : c ≠ '\\' := by
      rintro rfl
      exact hc (by decide)
    rw [List.cons_append, List.nil_append, tokens_cons_of_ne hne]

lemma tokens_literal_append (t u : Text) :
    tokens (literal t ++ u) = t.map literalToken ++ tokens u := by
  induction t with
  | nil => rfl
  | cons c t ih =>
      rw [literal, List.flatMap_cons, List.append_assoc, tokens_char_append, ← literal, ih]
      rfl

/-- The source of a character can be read off the text that it starts. -/
lemma char_append_inj (h : char c ++ t = char d ++ u) : c = d ∧ t = u := by
  have htokens : literalToken c :: tokens t = literalToken d :: tokens u := by
    rw [← tokens_char_append, ← tokens_char_append, h]
  obtain rfl := literalToken_injective (List.head_eq_of_cons_eq htokens)
  exact ⟨rfl, List.append_cancel_left h⟩

/-! ## The source of a form -/

/-- The group that catches a word or a gloss. -/
def group : Text := '(' :: inner ++ [')']

/-- **The tokens of a form**: its marks, each one token, around the two groups. -/
lemma tokens_form (f : Form) : tokens (form f) =
    literalToken f.main.opening ::
      (tokens group ++ (f.middle.map literalToken ++
        (tokens group ++ [literalToken f.gloss.closing]))) := by
  have hform : form f = char f.main.opening ++
      (group ++ (literal f.middle ++ (group ++ (literal [f.gloss.closing] ++ [])))) := by
    simp [form, group, literal, Form.middle]
  have hgroup : .plain '\\' ∉ tokens group := by decide
  rw [hform, tokens_char_append, tokens_append hgroup, tokens_literal_append, tokens_append hgroup,
    tokens_literal_append]
  rfl

/-- What stands in the inner group: the two classes of inner characters. -/
def alternatives : Text := "?:[^\\x00-\\x7F]|[0-9A-Za-z_]".toList

lemma splitOnP_append_parenthesis {x : List Token} {token : Token}
    (hx : ∀ token ∈ x, ¬ token.isParenthesis) (htoken : token.isParenthesis) (y : List Token) :
    (x ++ token :: y).splitOnP Token.isParenthesis = x :: y.splitOnP Token.isParenthesis := by
  rw [List.splitOnP_append_cons x y htoken, List.splitOnP_eq_singleton (by simpa using hx),
    List.singleton_append]

/-- A group cuts what it stands in at its own parentheses and at those inside it. -/
lemma splitOnP_group {x : List Token} (hx : ∀ token ∈ x, ¬ token.isParenthesis) (y : List Token) :
    (x ++ (tokens group ++ y)).splitOnP Token.isParenthesis =
      x :: [] :: tokens alternatives :: [.plain '+'] :: y.splitOnP Token.isParenthesis := by
  have hgroup : tokens group ++ y = .plain '(' :: ([] ++ .plain '(' ::
      (tokens alternatives ++ .plain ')' :: ([.plain '+'] ++ .plain ')' :: y))) := rfl
  rw [hgroup, splitOnP_append_parenthesis hx rfl, splitOnP_append_parenthesis (by simp) rfl,
    splitOnP_append_parenthesis (by decide) rfl, splitOnP_append_parenthesis (by decide) rfl]

/-- The parentheses that are not escaped are those of the two groups. -/
lemma filter_isParenthesis_tokens_form (f : Form) :
    (tokens (form f)).filter Token.isParenthesis =
      ['(', '(', ')', ')', '(', '(', ')', ')'].map .plain := by
  have hgroup : (tokens group).filter Token.isParenthesis = ['(', '(', ')', ')'].map .plain := by
    decide
  simp [tokens_form, hgroup, not_isParenthesis_literalToken]

/-- The parentheses that are not escaped cut the source of a form at its groups only. -/
lemma splitOnP_tokens_form (f : Form) : (tokens (form f)).splitOnP Token.isParenthesis =
    [[literalToken f.main.opening], [], tokens alternatives, [.plain '+'],
      f.middle.map literalToken, [], tokens alternatives, [.plain '+'],
      [literalToken f.gloss.closing]] := by
  have hsingle : ∀ c, ∀ token ∈ [literalToken c], ¬ token.isParenthesis := by
    simp [not_isParenthesis_literalToken]
  have hmiddle : ∀ token ∈ f.middle.map literalToken, ¬ token.isParenthesis := by
    simp [not_isParenthesis_literalToken]
  rw [tokens_form, ← List.singleton_append, splitOnP_group (hsingle _), splitOnP_group hmiddle,
    List.splitOnP_eq_singleton (by simpa using hsingle _)]

/-- Reads a form off its source.  Cut at the parentheses that are not escaped, the source has nine
pieces; the first, the last and the one in the middle hold the marks of the form. -/
def readForm? (source : Text) : Option Form :=
  match ((tokens source).splitOnP Token.isParenthesis).map (·.map Token.char) with
  | [[opening], _, _, _, closing :: rest, _, _, _, [closing']] =>
    rest.getLast?.map fun opening' =>
      ⟨⟨opening, closing⟩, rest.dropLast, ⟨opening', closing'⟩⟩
  | _ => none

/-- **A form is read back from its source.** -/
lemma readForm?_form (f : Form) : readForm? (form f) = some f := by
  have hchar : Token.char ∘ literalToken = id := funext char_literalToken
  rw [readForm?, splitOnP_tokens_form]
  simp [hchar, Form.middle, char_literalToken]

/-! ## Sources tell what they were written for -/

/-- The source of a pair holds the opening glyph and then both glyphs, each of them behind text that is
the same for all pairs. -/
lemma detection_inj {b b' : Brackets} (h : detection b = detection b') : b = b' := by
  unfold detection at h
  simp only [List.append_assoc, List.append_right_inj] at h
  obtain ⟨hopening, h⟩ := char_append_inj h
  obtain ⟨-, h⟩ := char_append_inj (List.append_cancel_left h)
  obtain ⟨hclosing, -⟩ := char_append_inj h
  exact congrArg₂ Brackets.mk hopening hclosing

/-- **Sources are unambiguous.**  Two forms with one source are one form, and two pairs with one source
are one pair.  Cutting a source into tokens loses nothing, and no token of a character that stands for
itself has a meaning of its own.  In the source of a form every mark is one such token, and the only
parentheses that are not escaped are those of the two groups and of the groups inside them; so the
form is read back from it. -/
theorem source_unambiguous :
    (∀ f g, form f = form g → f = g) ∧ (∀ b b', detection b = detection b' → b = b') ∧
    (∀ source, (tokens source).flatMap Token.text = source) ∧
    (∀ c, (literalToken c).char = c ∧ ∀ m ∈ metacharacters, literalToken c ≠ .plain m) ∧
    ∀ f : Form,
      tokens (form f) = literalToken f.main.opening ::
        (tokens group ++ (f.middle.map literalToken ++
          (tokens group ++ [literalToken f.gloss.closing]))) ∧
      (tokens (form f)).filter Token.isParenthesis =
        ['(', '(', ')', ')', '(', '(', ')', ')'].map .plain ∧
      readForm? (form f) = some f := by
  refine ⟨fun f g h => ?_, fun b b' h => detection_inj h, flatMap_text_tokens,
    fun c => ⟨char_literalToken c, fun m hm => literalToken_ne_plain hm c⟩,
    fun f => ⟨tokens_form f, filter_isParenthesis_tokens_form f, readForm?_form f⟩⟩
  exact Option.some.inj (by rw [← readForm?_form f, ← readForm?_form g, h])

/-- Parentheses and backslashes as glyphs, and a copy of a group as separator. -/
theorem source_unambiguous_copied_group :
    ∃ f : Form, f = ⟨⟨'(', '\\'⟩, group, ⟨'\\', ')'⟩⟩ ∧ (∀ g, form g = form f → g = f) ∧
      readForm? (form f) = some f :=
  ⟨⟨⟨'(', '\\'⟩, group, ⟨'\\', ')'⟩⟩, rfl, fun g h => source_unambiguous.1 g _ h,
    (source_unambiguous.2.2.2.2 _).2.2⟩

end Furigana.Pattern
