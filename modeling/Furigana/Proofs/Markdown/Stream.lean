import Mathlib
import Furigana.Proofs.Markdown.Annotation

/-!
# Streams of events

A document is annotated without losing, doubling or moving an event.  It is divided into the events
that are kept and the runs of texts that are converted, and one event replaces each of these
portions.  A text is kept inside code blocks and images.  How many of these are open the counts of
starts and ends tell for every stream, and the elements around a place tell it for a stream in which
they are nested.

* `Tally`, `Inside` — the counts of starts and of effective ends;
* `ancestors`, `WellNested` — the elements around a place;
* `inside_iff_of_ancestors` — counts and elements agree;
* `Portion`, `Divides` — how a stream is divided;
* `annotate_portions` — what replaces the portions.
-/

namespace Furigana.Markdown

variable {kind : TagEnd} {tags tags' : List Tag} {event : Event} {sited : Sited}
  {before events : List Sited}

/-! ## Counts -/

/-- The starts and the effective ends of a kind of element. -/
structure Tally where
  starts : Nat
  ends : Nat
  ends_le_starts : ends ≤ starts

namespace Tally

/-- The counts before a stream. -/
def zero : Tally := ⟨0, 0, Nat.le_refl 0⟩

/-- The counts behind an event.  An end has no effect if there are as many as starts. -/
def after (kind : TagEnd) (n : Tally) : Event → Tally
  | .enter tag => if tag.toEnd = kind then ⟨n.starts + 1, n.ends, n.ends_le_starts.step⟩ else n
  | .leave tag => if h : tag = kind ∧ n.ends < n.starts then ⟨n.starts, n.ends + 1, h.2⟩ else n
  | _ => n

/-- The number of elements that are open. -/
def count (n : Tally) : Nat := n.starts - n.ends

lemma count_after_enter (kind : TagEnd) (n : Tally) (tag : Tag) :
    (n.after kind (.enter tag)).count = if tag.toEnd = kind then n.count + 1 else n.count := by
  rw [after]
  split_ifs with h
  · exact Nat.succ_sub n.ends_le_starts
  · rfl

lemma count_after_leave (kind : TagEnd) (n : Tally) (tag : TagEnd) :
    (n.after kind (.leave tag)).count = if tag = kind then n.count - 1 else n.count := by
  by_cases heq : tag = kind
  · by_cases hlt : n.ends < n.starts
    · rw [after, dif_pos ⟨heq, hlt⟩, if_pos heq]
      rfl
    · have hzero : n.count = 0 := Nat.sub_eq_zero_of_le (Nat.le_of_not_lt hlt)
      rw [after, dif_neg (fun h => hlt h.2), if_pos heq, hzero]
  · rw [after, dif_neg (fun h => heq h.1), if_neg heq]

end Tally

/-- The starts and the effective ends in a stretch of events. -/
def tally (kind : TagEnd) (events : List Sited) : Tally :=
  events.foldl (fun n sited => n.after kind sited.1) .zero

/-- The kinds of elements in which texts are kept. -/
def TagEnd.IsVerbatim (kind : TagEnd) : Prop := kind = .codeBlock ∨ kind = .image

/-- Whether more code blocks have started than ended, or more images. -/
def Inside (before : List Sited) : Prop :=
  ∃ kind : TagEnd, kind.IsVerbatim ∧ 0 < (tally kind before).count

lemma tally_append_singleton (kind : TagEnd) (events : List Sited) (sited : Sited) :
    tally kind (events ++ [sited]) = (tally kind events).after kind sited.1 :=
  List.foldl_concat _ _ _ _

namespace Depth

lemma behind_append (d : Depth) (before events : List Sited) :
    d.behind (before ++ events) = (d.behind before).behind events := List.foldl_append

/-- The depths are the counts. -/
lemma behind_eq_count (events : List Sited) :
    zero.behind events = ⟨(tally .codeBlock events).count, (tally .image events).count⟩ := by
  induction events using List.reverseRecOn with
  | nil => rfl
  | append_singleton events sited ih =>
      obtain ⟨event, span⟩ := sited
      rw [behind_append, ih, tally_append_singleton, tally_append_singleton]
      show Depth.after _ event = _
      cases event with
      | enter tag => cases tag <;> simp [Depth.after, Tally.count_after_enter, Tag.toEnd]
      | leave tag => cases tag <;> simp [Depth.after, Tally.count_after_leave]
      | _ => rfl

/-- Texts are kept exactly inside code blocks and images. -/
lemma converts_behind_iff (before : List Sited) :
    (zero.behind before).converts ↔ ¬ Inside before := by
  simp [behind_eq_count, converts, Inside, TagEnd.IsVerbatim]

end Depth

/-! ## Elements around a place -/

/-- The open elements behind an event, the innermost first, which is the one an end has to end. -/
def nest (tags : List Tag) : Event → Option (List Tag)
  | .enter tag => some (tag :: tags)
  | .leave kind =>
    match tags with
    | tag :: tags => if tag.toEnd = kind then some tags else none
    | [] => none
  | _ => some tags

/-- The elements that are open behind a stretch of events, if they are nested. -/
def ancestors (events : List Sited) : Option (List Tag) :=
  events.foldlM (fun tags sited => nest tags sited.1) []

/-- A stream in which every start has its end, and elements are nested. -/
def WellNested (events : List Sited) : Prop := ancestors events = some []

instance : Decidable (WellNested events) := inferInstanceAs (Decidable (_ = _))

lemma ancestors_append (before events : List Sited) :
    ancestors (before ++ events) = (ancestors before).bind fun tags =>
      events.foldlM (fun tags sited => nest tags sited.1) tags :=
  List.foldlM_append

/-- There are elements around every place of a well-nested stream. -/
lemma WellNested.exists_ancestors (h : WellNested (before ++ events)) :
    ∃ tags, ancestors before = some tags := by
  rw [WellNested, ancestors_append] at h
  obtain ⟨tags, htags, _⟩ := Option.bind_eq_some_iff.1 h
  exact ⟨tags, htags⟩

/-- One event changes the count of a kind as it changes the open elements of that kind. -/
lemma Tally.count_after_of_nest (n : Tally) (hn : n.count = tags.countP (·.toEnd = kind))
    (h : nest tags event = some tags') :
    (n.after kind event).count = tags'.countP (·.toEnd = kind) := by
  cases event with
  | enter tag =>
      obtain rfl := Option.some.inj h
      rw [count_after_enter, List.countP_cons, hn]
      simp only [decide_eq_true_eq]
      split_ifs <;> rfl
  | leave tag =>
      cases tags with
      | nil => exact absurd h nofun
      | cons last tags =>
          rw [nest] at h
          obtain ⟨rfl, rfl⟩ : last.toEnd = tag ∧ tags = tags' := by simpa using h
          rw [count_after_leave, hn, List.countP_cons]
          simp only [decide_eq_true_eq]
          split_ifs <;> rfl
  | _ =>
      obtain rfl := Option.some.inj h
      exact hn

/-- **Counts and elements agree.** -/
theorem count_tally_of_ancestors (kind : TagEnd) (h : ancestors before = some tags) :
    (tally kind before).count = tags.countP (·.toEnd = kind) := by
  induction before using List.reverseRecOn generalizing tags with
  | nil =>
      obtain rfl := Option.some.inj h
      rfl
  | append_singleton before sited ih =>
      rw [ancestors_append] at h
      obtain ⟨tags', htags, hlast⟩ := Option.bind_eq_some_iff.1 h
      rw [tally_append_singleton]
      refine Tally.count_after_of_nest _ (ih htags) ?_
      simpa using hlast

/-- More code blocks or images have started than ended exactly if one of them is around. -/
lemma inside_iff_of_ancestors (h : ancestors before = some tags) :
    Inside before ↔ ∃ tag ∈ tags, tag.toEnd.IsVerbatim := by
  have hcount : ∀ kind, 0 < (tally kind before).count ↔ ∃ tag ∈ tags, tag.toEnd = kind := by
    intro kind
    rw [count_tally_of_ancestors kind h, List.countP_pos_iff]
    simp
  simp only [Inside, hcount]
  constructor
  · rintro ⟨_, hkind, tag, htag, rfl⟩
    exact ⟨tag, htag, hkind⟩
  · rintro ⟨tag, htag, hkind⟩
    exact ⟨_, hkind, tag, htag, rfl⟩

/-! ## Portions -/

/-- What a stream is divided into: an event that is kept, or a run of texts that is converted. -/
inductive Portion where
  | kept (sited : Sited)
  | run (texts : List (Text × Span))

namespace Portion

/-- The events of a portion. -/
def stretch : Portion → List Sited
  | .kept sited => [sited]
  | .run texts => textEvents texts

/-- Whether a portion may stand between two stretches of events.  A text is kept only inside code
blocks and images.  A run stands elsewhere, and no text stands next to it. -/
def Fits (inside : Prop) (before after : List Sited) : Portion → Prop
  | .kept sited => sited.1.IsText → inside
  | .run texts => texts ≠ [] ∧ ¬ inside ∧ EndsRun before ∧ ∀ next ∈ after.head?, ¬ next.1.IsText

/-- Whether an event may replace a portion.  A kept event stays as it is, and a run becomes its text
or markup. -/
def Becomes : Portion → Event → Prop
  | .kept sited, event => event = sited.1
  | .run texts, event => event = .text (plainText texts) ∨ ∃ html, event = .inlineHtml html

end Portion

variable {portion : Portion} {portions : List Portion}

/-- A stream divided into portions, where `before` stands in front of it. -/
structure Divides (before events : List Sited) (portions : List Portion) : Prop where
  stretch_eq : portions.flatMap Portion.stretch = events
  fits : ∀ front portion rest, portions = front ++ portion :: rest →
    portion.Fits (Inside (before ++ front.flatMap Portion.stretch))
      (before ++ front.flatMap Portion.stretch) (rest.flatMap Portion.stretch)

lemma divides_nil (before : List Sited) : Divides before [] [] :=
  ⟨rfl, fun front portion rest h => absurd h (by simp)⟩

/-- A portion in front of a stream that is divided. -/
lemma Divides.cons (hportion : portion.Fits (Inside before) before events)
    (h : Divides (before ++ portion.stretch) events portions) :
    Divides before (portion.stretch ++ events) (portion :: portions) where
  stretch_eq := by rw [List.flatMap_cons, h.stretch_eq]
  fits := by
    refine forall_split_cons ?_ fun front next rest hsplit => ?_
    · rwa [h.stretch_eq, List.flatMap_nil, List.append_nil]
    · rw [List.flatMap_cons, ← List.append_assoc]
      exact h.fits front next rest hsplit

lemma Divides.cons_kept (h : Divides (before ++ [sited]) events portions)
    (hkept : sited.1.IsText → Inside before) :
    Divides before (sited :: events) (.kept sited :: portions) :=
  Divides.cons (show (Portion.kept sited).Fits (Inside before) before events from hkept) h

/-! ## Division -/

/-- A stream is the run at its start and what follows, which starts with no text. -/
lemma textEvents_spanTexts (events : List Sited) :
    textEvents (spanTexts events).1 ++ (spanTexts events).2 = events ∧
      ∀ next ∈ (spanTexts events).2.head?, ¬ next.1.IsText := by
  induction events with
  | nil => exact ⟨rfl, nofun⟩
  | cons first events ih =>
      obtain ⟨event, span⟩ := first
      by_cases htext : event.IsText
      · obtain ⟨content, rfl⟩ := htext
        exact ⟨congrArg (List.cons (Event.text content, span)) ih.1, ih.2⟩
      · rw [spanTexts_cons_of_not_isText htext]
        refine ⟨rfl, ?_⟩
        rintro _ ⟨⟩
        exact htext

lemma Depth.behind_textEvents (d : Depth) (texts : List (Text × Span)) :
    d.behind (textEvents texts) = d := by
  induction texts with
  | nil => rfl
  | cons first texts ih => exact ih

/-- A run becomes its text or markup. -/
lemma Portion.becomes_annotateRun (source : Array UInt8) (o : Options) (e : Engine)
    (texts : List (Text × Span)) :
    (Portion.run texts).Becomes (annotateRun source o e texts).1 := by
  rw [annotateRun]
  dsimp only
  split_ifs
  · exact .inl rfl
  · exact .inr ⟨_, rfl⟩

/-- A text opens and closes nothing. -/
lemma inside_append_text {content : Text} {span : Span} :
    Inside (before ++ [(.text content, span)]) ↔ Inside before := by
  simp only [Inside, tally_append_singleton]
  rfl

lemma endsRun_append_singleton {span : Span} (h : ¬ event.IsText) :
    EndsRun (before ++ [(event, span)]) := by
  intro last hlast
  rw [List.getLast?_concat] at hlast
  obtain rfl := Option.some.inj hlast
  exact h

/-- What is left of a stream is divided and replaced, where a text at its start that is not kept
starts a run. -/
lemma exists_divides (source : Array UInt8) (o : Options) (e : Engine) (d : Depth)
    (events before : List Sited) (hd : d = Depth.zero.behind before)
    (hstart : ∀ next ∈ events.head?, next.1.IsText → ¬ Inside before → EndsRun before) :
    ∃ portions, Divides before events portions ∧
      List.Forall₂ Portion.Becomes portions (annotateFrom source o e d events).1 := by
  -- along the annotation: what stands in front grows, and no run goes on across its end
  induction e, d, events using annotateFrom.induct source o generalizing before with
  | case1 e d =>
      rw [annotateFrom]
      exact ⟨[], divides_nil before, .nil⟩
  | case2 e d content span events hconverts _ _ hrun _ _ _ ih =>
      obtain rfl := congrArg Prod.snd hrun
      let texts := (content, span) :: (spanTexts events).1
      obtain ⟨heq, hnext⟩ := textEvents_spanTexts events
      have hinside : ¬ Inside before := by
        rw [← Depth.converts_behind_iff, ← hd]
        exact hconverts
      have hends : EndsRun before := hstart _ rfl ⟨content, rfl⟩ hinside
      obtain ⟨portions, hdivides, hbecomes⟩ := ih (before ++ textEvents texts)
        (by rw [Depth.behind_append, Depth.behind_textEvents, hd])
        (fun next hmem htext => absurd htext (hnext next hmem))
      have hfits : (Portion.run texts).Fits (Inside before) before (spanTexts events).2 :=
        ⟨List.cons_ne_nil _ _, hinside, hends, hnext⟩
      have hsplit : (Portion.run texts).stretch ++ (spanTexts events).2
          = (.text content, span) :: events := congrArg (List.cons (Event.text content, span)) heq
      rw [annotateFrom_run hconverts, ← hsplit]
      exact ⟨.run texts :: portions, hdivides.cons hfits,
        .cons (Portion.becomes_annotateRun source o e texts) hbecomes⟩
  | case3 e d content span events hconverts _ _ _ ih =>
      have hinside : Inside before := by
        by_contra houtside
        rw [← Depth.converts_behind_iff, ← hd] at houtside
        exact hconverts houtside
      obtain ⟨portions, hdivides, hbecomes⟩ := ih (before ++ [(.text content, span)])
        (by rw [Depth.behind_append, ← hd]; rfl)
        (fun _ _ _ houtside => absurd (inside_append_text.2 hinside) houtside)
      rw [annotateFrom_text hconverts]
      exact ⟨.kept (.text content, span) :: portions, hdivides.cons_kept fun _ => hinside,
        .cons rfl hbecomes⟩
  | case4 e d event span events hother _ _ _ ih =>
      have htext : ¬ event.IsText := by
        rintro ⟨content, heq⟩
        exact hother content heq
      obtain ⟨portions, hdivides, hbecomes⟩ := ih (before ++ [(event, span)])
        (by rw [Depth.behind_append, ← hd]; rfl)
        (fun _ _ _ _ => endsRun_append_singleton htext)
      rw [annotateFrom_cons_of_not_isText htext]
      exact ⟨.kept (event, span) :: portions, hdivides.cons_kept fun h => absurd h htext,
        .cons rfl hbecomes⟩

/-- **Nothing in a stream is lost, doubled or moved.**  Every stream, with any spans and nested or
not, is divided into events that are kept and into runs of texts, and what it is annotated to has
one event for each of these portions, in their order.  The texts that are kept are those inside code
blocks and images.  The runs are all others, and no run can be made longer.  In a well-nested stream
a text is inside exactly if one of the elements around it is a code block or an image. -/
theorem annotate_portions (source : Text) (o : Options) (e : Engine) (events : List Sited) :
    ∃ portions : List Portion,
      portions.flatMap Portion.stretch = events ∧
      List.Forall₂ Portion.Becomes portions (annotate source o e events).1 ∧
      ∀ front portion rest, portions = front ++ portion :: rest →
        portion.Fits (Inside (front.flatMap Portion.stretch)) (front.flatMap Portion.stretch)
          (rest.flatMap Portion.stretch) ∧
        (WellNested events → ∃ tags, ancestors (front.flatMap Portion.stretch) = some tags ∧
          portion.Fits (∃ tag ∈ tags, tag.toEnd.IsVerbatim) (front.flatMap Portion.stretch)
            (rest.flatMap Portion.stretch)) := by
  obtain ⟨portions, hdivides, hbecomes⟩ := exists_divides source.utf8.toArray o e .zero events []
    rfl (fun _ _ _ _ => nofun)
  refine ⟨portions, hdivides.stretch_eq, hbecomes, fun front portion rest hsplit => ?_⟩
  have hfits := hdivides.fits front portion rest hsplit
  rw [List.nil_append] at hfits
  refine ⟨hfits, fun hnested => ?_⟩
  rw [← hdivides.stretch_eq, hsplit, List.flatMap_append] at hnested
  obtain ⟨tags, htags⟩ := hnested.exists_ancestors
  rw [inside_iff_of_ancestors htags] at hfits
  exact ⟨tags, htags, hfits⟩

/-- Behind an inner image a text is still inside the outer one.  Behind both, texts are one run. -/
example :
    let word : Sited := (.text "[字]^(じ)".toList, ⟨0, 0⟩)
    let enter : Sited := (.enter (.image [] []), ⟨0, 0⟩)
    let leave : Sited := (.leave .image, ⟨0, 0⟩)
    let events := [enter, enter, word, leave, word, word, leave, word, word]
    let ruby := "<ruby>字<rp>【</rp><rt>じ</rt><rp>】</rp></ruby>".toList
    WellNested events ∧
      (annotate [] .standard .fresh events).1
        = [enter.1, enter.1, word.1, leave.1, word.1, word.1, leave.1,
          .inlineHtml (ruby ++ ruby)] := by
  decide +kernel

end Furigana.Markdown
