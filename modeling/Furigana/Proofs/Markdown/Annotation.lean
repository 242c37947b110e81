import Mathlib
import Furigana.Markdown.Document
import Furigana.Proofs.Engine
import Furigana.Proofs.Untouched

/-!
# Runs of texts in a document

A document is annotated run by run: neighbouring texts are converted together, everything else stays.
What becomes of a run depends neither on the events around it nor on what was converted before.

* `annotateFrom_append` — behind an event that is no text a document may be cut in two;
* `annotateFrom_congr` — what earlier calls have left in the engine does not show;
* `annotate_run` — both for a run of texts, which one event replaces;
* `annotateRun_of_findsNothing` — a run in which nothing is found;
* `annotate_untouched_run` — the same in a document.
-/

namespace Furigana.Markdown

open Engine (Reachable)

variable {o : Options} {e e' : Engine} {d : Depth} {source : Array UInt8} {event : Event}
  {span : Span} {content : Text} {events before after : List Sited} {run : List (Text × Span)}

/-! ## Runs -/

/-- Whether an event is a text. -/
def Event.IsText (event : Event) : Prop := ∃ content, event = .text content

/-- A stretch of events behind which no run goes on. -/
def EndsRun (events : List Sited) : Prop := ∀ last ∈ events.getLast?, ¬ last.1.IsText

/-- The events of a run. -/
def textEvents (run : List (Text × Span)) : List Sited :=
  run.map fun (content, span) => (.text content, span)

/-- The content of a run. -/
def plainText (run : List (Text × Span)) : Text := run.flatMap (·.1)

lemma spanTexts_cons_of_not_isText (h : ¬ event.IsText) (events : List Sited) :
    spanTexts ((event, span) :: events) = ([], (event, span) :: events) :=
  spanTexts.eq_2 _ fun content _ _ heq => h ⟨content, congrArg Prod.fst (List.cons.inj heq).1⟩

lemma spanTexts_textEvents (h : ∀ next ∈ after.head?, ¬ next.1.IsText) :
    spanTexts (textEvents run ++ after) = (run, after) := by
  induction run with
  | nil =>
      cases after with
      | nil => rfl
      | cons next after => exact spanTexts_cons_of_not_isText (h next rfl) after
  | cons piece run ih =>
      show spanTexts ((.text piece.1, piece.2) :: (textEvents run ++ after)) = _
      rw [spanTexts, ih]

lemma EndsRun.tail {first : Sited} (h : EndsRun (first :: events)) : EndsRun events :=
  fun last hlast => h last (List.mem_getLast?_cons hlast)

lemma EndsRun.ne_nil (h : EndsRun ((.text content, span) :: events)) : events ≠ [] := by
  rintro rfl
  exact h _ rfl ⟨content, rfl⟩

/-- The run at the start of a stretch ends in front of the event that ends it, whatever follows. -/
lemma spanTexts_append (hne : events ≠ []) (h : EndsRun events) (after : List Sited) :
    spanTexts (events ++ after) = ((spanTexts events).1, (spanTexts events).2 ++ after) ∧
      EndsRun (spanTexts events).2 := by
  induction events with
  | nil => exact absurd rfl hne
  | cons first events ih =>
      obtain ⟨event, span⟩ := first
      by_cases htext : event.IsText
      · obtain ⟨content, rfl⟩ := htext
        obtain ⟨hspan, hends⟩ := ih h.ne_nil h.tail
        rw [List.cons_append, spanTexts, spanTexts, hspan]
        exact ⟨rfl, hends⟩
      · rw [List.cons_append, spanTexts_cons_of_not_isText htext,
          spanTexts_cons_of_not_isText htext]
        exact ⟨rfl, h⟩

/-! ## Depths -/

namespace Depth

/-- The depth behind a stretch of events. -/
def behind (d : Depth) (events : List Sited) : Depth :=
  events.foldl (fun d sited => d.after sited.1) d

/-- Texts lead no deeper. -/
lemma behind_spanTexts (d : Depth) (events : List Sited) :
    d.behind (spanTexts events).2 = d.behind events := by
  induction events with
  | nil => rfl
  | cons first events ih =>
      obtain ⟨event, span⟩ := first
      by_cases htext : event.IsText
      · obtain ⟨content, rfl⟩ := htext
        exact ih
      · rw [spanTexts_cons_of_not_isText htext]

end Depth

/-! ## Documents -/

lemma annotateFrom_run (hd : d.converts) :
    annotateFrom source o e d ((.text content, span) :: events)
      = ((annotateRun source o e ((content, span) :: (spanTexts events).1)).1
          :: (annotateFrom source o
            (annotateRun source o e ((content, span) :: (spanTexts events).1)).2 d
            (spanTexts events).2).1,
        (annotateFrom source o (annotateRun source o e ((content, span) :: (spanTexts events).1)).2
          d (spanTexts events).2).2) := by
  rw [annotateFrom, if_pos hd]

lemma annotateFrom_text (hd : ¬ d.converts) :
    annotateFrom source o e d ((.text content, span) :: events)
      = (.text content :: (annotateFrom source o e d events).1,
        (annotateFrom source o e d events).2) := by
  rw [annotateFrom, if_neg hd]

lemma annotateFrom_cons_of_not_isText (h : ¬ event.IsText) :
    annotateFrom source o e d ((event, span) :: events)
      = (event :: (annotateFrom source o e (d.after event) events).1,
        (annotateFrom source o e (d.after event) events).2) := by
  rw [annotateFrom.eq_3 _ _ _ _ _ _ _ fun content heq => h ⟨content, heq⟩]

/-- **Cutting a document in two.**  Behind a stretch that ends no run, what is left is annotated at
the depth and with the engine that the stretch leads to. -/
theorem annotateFrom_append (h : EndsRun before) (after : List Sited) :
    annotateFrom source o e d (before ++ after)
      = ((annotateFrom source o e d before).1
          ++ (annotateFrom source o (annotateFrom source o e d before).2 (d.behind before) after).1,
        (annotateFrom source o (annotateFrom source o e d before).2 (d.behind before) after).2) := by
  induction e, d, before using annotateFrom.induct source o with
  | case1 e d =>
      rw [annotateFrom]
      rfl
  | case2 e d content span events hd _ _ hrun _ _ _ ih =>
      obtain ⟨hspan, hends⟩ := spanTexts_append h.ne_nil h.tail after
      obtain rfl := congrArg Prod.snd hrun
      rw [List.cons_append, annotateFrom_run hd, annotateFrom_run hd, hspan, ih hends,
        Depth.behind_spanTexts]
      rfl
  | case3 e d content span events hd _ _ _ ih =>
      rw [List.cons_append, annotateFrom_text hd, annotateFrom_text hd, ih h.tail]
      rfl
  | case4 e d event span events hother _ _ _ ih =>
      have htext : ¬ event.IsText := fun ⟨content, heq⟩ => hother content heq
      rw [List.cons_append, annotateFrom_cons_of_not_isText htext,
        annotateFrom_cons_of_not_isText htext, ih h.tail]
      rfl

/-! ## The engine -/

/-- A run is converted as the options ask for, and the engine stays one that calls lead to. -/
lemma annotateRun_of_reachable (he : e.Reachable) (source : Array UInt8) (o : Options)
    (run : List (Text × Span)) :
    (annotateRun source o e run).1
        = (if dropEscapes (o.render (Text.escapeHtml (withEscapes source none run)))
              = (plainText run).escapeHtml then .text (plainText run)
            else .inlineHtml
              (dropEscapes (o.render (Text.escapeHtml (withEscapes source none run))))) ∧
      (annotateRun source o e run).2.Reachable := by
  rw [← he.render_eq]
  exact ⟨rfl, he.render o (Text.escapeHtml (withEscapes source none run))⟩

/-- **Earlier conversions do not show** in what becomes of a document. -/
theorem annotateFrom_congr (he : e.Reachable) (he' : e'.Reachable) (source : Array UInt8)
    (o : Options) (d : Depth) (events : List Sited) :
    (annotateFrom source o e d events).1 = (annotateFrom source o e' d events).1 := by
  induction e, d, events using annotateFrom.induct source o generalizing e' with
  | case1 e d =>
      rw [annotateFrom, annotateFrom]
  | case2 e d content span events hd _ _ hrun _ _ _ ih =>
      obtain rfl := congrArg Prod.snd hrun
      obtain ⟨hevent, hnext⟩ :=
        annotateRun_of_reachable he source o ((content, span) :: (spanTexts events).1)
      obtain ⟨hevent', hnext'⟩ :=
        annotateRun_of_reachable he' source o ((content, span) :: (spanTexts events).1)
      rw [annotateFrom_run hd, annotateFrom_run hd, hevent, hevent', ih hnext hnext']
  | case3 e d content span events hd _ _ _ ih =>
      rw [annotateFrom_text hd, annotateFrom_text hd, ih he he']
  | case4 e d event span events hother _ _ _ ih =>
      have htext : ¬ event.IsText := fun ⟨content, heq⟩ => hother content heq
      rw [annotateFrom_cons_of_not_isText htext, annotateFrom_cons_of_not_isText htext, ih he he']

lemma reachable_annotateFrom (he : e.Reachable) (source : Array UInt8) (o : Options) (d : Depth)
    (events : List Sited) : (annotateFrom source o e d events).2.Reachable := by
  induction e, d, events using annotateFrom.induct source o with
  | case1 e d =>
      rwa [annotateFrom]
  | case2 e d content span events hd _ _ hrun _ _ _ ih =>
      obtain rfl := congrArg Prod.snd hrun
      rw [annotateFrom_run hd]
      exact ih (annotateRun_of_reachable he source o _).2
  | case3 e d content span events hd _ _ _ ih =>
      rw [annotateFrom_text hd]
      exact ih he
  | case4 e d event span events hother _ _ _ ih =>
      rw [annotateFrom_cons_of_not_isText fun ⟨content, heq⟩ => hother content heq]
      exact ih he

/-- **One event replaces a run** of texts outside code and images that cannot be made longer on
either side.  The events around it become what they become without the run. -/
theorem annotate_run (he : e.Reachable) (o : Options) (source : Text) (hne : run ≠ [])
    (hbefore : EndsRun before) (hafter : ∀ next ∈ after.head?, ¬ next.1.IsText)
    (hdepth : (Depth.zero.behind before).converts) :
    ∃ front : Engine, front.Reachable ∧
      (annotate source o e (before ++ (textEvents run ++ after))).1
        = (annotate source o e before).1 ++ (annotateRun source.utf8.toArray o front run).1 ::
          (annotateFrom source.utf8.toArray o e (Depth.zero.behind before) after).1 := by
  let front := (annotateFrom source.utf8.toArray o e .zero before).2
  have hfront : front.Reachable := reachable_annotateFrom he _ o .zero before
  refine ⟨front, hfront, ?_⟩
  obtain ⟨⟨content, span⟩, run, rfl⟩ := List.exists_cons_of_ne_nil hne
  have hnext := (annotateRun_of_reachable hfront source.utf8.toArray o ((content, span) :: run)).2
  show (annotateFrom _ o e .zero (before ++ (.text content, span) :: (textEvents run ++ after))).1
    = _
  rw [annotateFrom_append hbefore, annotateFrom_run hdepth, spanTexts_textEvents hafter,
    annotateFrom_congr he hnext source.utf8.toArray o (Depth.zero.behind before) after]
  rfl

/-! ## Runs in which nothing is found -/

/-- **A run in which nothing is found** stays a text exactly if the backslashes that are dropped
behind the conversion are those that were put back before it. -/
theorem annotateRun_of_findsNothing (he : e.Reachable) (ho : o.SparesReferences)
    (source : Array UInt8) (hnone : o.FindsNothing (plainText run)) :
    (annotateRun source o e run).1 = .text (plainText run) ↔
      dropEscapes (unescape o.fallback (withEscapes source none run)) = plainText run := by
  have hrender := hnone.render_eq ho (putBack_withEscapes source none run)
  rw [(annotateRun_of_reachable he source o run).1, hrender, dropEscapes_escapeHtml]
  simp only [Text.escapeHtml_injective.eq_iff]
  split_ifs with h <;> simp [h]

/-- **Untouched runs in a document.**  Let the options spare references and find nothing in a run of
texts outside code and images, which cannot be made longer on either side.  Then one event replaces
the run, the events around it become what they become without the run, and that one event is the
text of the run exactly if resolving the escapes of the fallback brackets and dropping backslashes
undoes what was put back.  It does so if no backslash of the run stands before ASCII punctuation or a
fallback glyph. -/
theorem annotate_untouched_run (he : e.Reachable) (ho : o.SparesReferences) (source : Text)
    (hne : run ≠ []) (hbefore : EndsRun before) (hafter : ∀ next ∈ after.head?, ¬ next.1.IsText)
    (hdepth : (Depth.zero.behind before).converts) (hnone : o.FindsNothing (plainText run)) :
    ∃ event,
      (annotate source o e (before ++ (textEvents run ++ after))).1
        = (annotate source o e before).1 ++ event ::
          (annotateFrom source.utf8.toArray o e (Depth.zero.behind before) after).1 ∧
      (event = .text (plainText run) ↔
        dropEscapes (unescape o.fallback (withEscapes source.utf8.toArray none run))
          = plainText run) ∧
      (StartsAtEscapes source.utf8.toArray none run → IsLiteral o.fallback (plainText run) →
        event = .text (plainText run)) := by
  obtain ⟨front, hfront, hevents⟩ := annotate_run he o source hne hbefore hafter hdepth
  have hevent := annotateRun_of_findsNothing hfront ho source.utf8.toArray hnone
  exact ⟨_, hevents, hevent, fun hstarts hliteral =>
    hevent.2 (dropEscapes_unescape_withEscapes hstarts hliteral)⟩

lemma sparesReferences_standard : Options.standard.SparesReferences where
  forms := by decide
  pairs := by decide
  opening := by decide
  closing := by decide

/-- A backslash that escapes punctuation and one that a reference stands for. -/
theorem annotate_untouched_run_with_escapes :
    ∃ (source : Text) (run : List (Text × Span)),
      source = "a\\*b&#92;c".toList ∧ plainText run = "a*b\\c".toList ∧
      parse source
        = [(.enter .paragraph, ⟨0, 0⟩)] ++ (textEvents run ++ [(.leave .paragraph, ⟨0, 0⟩)]) ∧
      Options.standard.SparesReferences ∧ Options.standard.FindsNothing (plainText run) ∧
      StartsAtEscapes source.utf8.toArray none run ∧ IsLiteral .lenticular (plainText run) ∧
      (annotate source .standard .fresh (parse source)).1
        = [.enter .paragraph, .text (plainText run), .leave .paragraph] := by
  let run : List (Text × Span) :=
    [(['a'], ⟨0, 1⟩), (['*', 'b'], ⟨2, 4⟩), (['\\'], ⟨4, 9⟩), (['c'], ⟨9, 10⟩)]
  let paragraph : List Sited := [(.enter .paragraph, ⟨0, 0⟩)]
  have hsource : parse "a\\*b&#92;c".toList
      = paragraph ++ (textEvents run ++ [(.leave .paragraph, ⟨0, 0⟩)]) := by decide +kernel
  have hnone : Options.standard.FindsNothing (plainText run) :=
    Options.findsNothing_of_notMem (by decide) (by decide)
  have hstarts : StartsAtEscapes (Text.utf8 "a\\*b&#92;c".toList).toArray none run := by
    decide +kernel
  have hliteral : IsLiteral .lenticular (plainText run) := by
    decide
  have hbefore : EndsRun paragraph := by
    rintro _ ⟨⟩ ⟨_, ⟨⟩⟩
  have hafter : ∀ next ∈ ([(.leave .paragraph, ⟨0, 0⟩)] : List Sited).head?, ¬ next.1.IsText := by
    rintro _ ⟨⟩ ⟨_, ⟨⟩⟩
  obtain ⟨event, hevents, _, htext⟩ := annotate_untouched_run Engine.Reachable.fresh
    sparesReferences_standard "a\\*b&#92;c".toList (by decide) hbefore hafter (by decide) hnone
  refine ⟨_, run, rfl, rfl, hsource, sparesReferences_standard, hnone, hstarts, hliteral, ?_⟩
  rw [hsource, hevents, htext hstarts hliteral]
  decide +kernel

/-- A backslash that a reference stands for is dropped in front of punctuation, though nothing is
found in the text. -/
theorem annotate_drops_literal_backslash :
    ∃ (source : Text) (run : List (Text × Span)),
      source = "&#92;!".toList ∧ plainText run = ['\\', '!'] ∧
      parse source
        = [(.enter .paragraph, ⟨0, 0⟩)] ++ (textEvents run ++ [(.leave .paragraph, ⟨0, 0⟩)]) ∧
      Options.standard.FindsNothing (plainText run) ∧
      Options.standard.fallback.opening ∉ plainText run ∧
      Options.standard.fallback.closing ∉ plainText run ∧
      (annotate source .standard .fresh (parse source)).1
        = [.enter .paragraph, .inlineHtml ['!'], .leave .paragraph] ∧
      (annotate source .standard .fresh (textEvents run)).1 = [.inlineHtml ['!']] ∧
      (annotate source .standard .fresh (textEvents run)).1 ≠ [.text (plainText run)] := by
  let run : List (Text × Span) := [(['\\'], ⟨0, 5⟩), (['!'], ⟨5, 6⟩)]
  have hannotate : (annotate "&#92;!".toList .standard .fresh (textEvents run)).1
      = [.inlineHtml ['!']] := by decide +kernel
  refine ⟨_, run, rfl, rfl, by decide +kernel, ?_, by decide, by decide, by decide +kernel,
    hannotate, ?_⟩
  · exact Options.findsNothing_of_notMem (by decide) (by decide)
  · rw [hannotate]
    decide

end Furigana.Markdown
