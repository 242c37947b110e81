import Furigana.Cache
import Furigana.Escape
import Furigana.Notice

/-!
# The conversion engine

A conversion applies every form, then every detected pair, each to the result of the one before, and
at last resolves the escapes of the fallback brackets.

* `convert` — the conversion for given forms and pairs;
* `Options.render` — the conversion that options ask for;
* `Engine.render` — the same with compiled lists kept between calls;
* `Engine.notices` — what a call of it reports.
-/

namespace Furigana

/-- The conversion of a text by forms and pairs. -/
def convert (forms : List Form) (pairs : List Brackets) (aligned : Bool) (fallback : Brackets)
    (t : Text) : Text :=
  unescape fallback
    (pairs.foldl (fun t b => b.apply aligned fallback t)
      (forms.foldl (fun t f => f.apply aligned fallback t) t))

namespace Options

/-- The forms that the options apply. -/
def activeForms (o : Options) : List Form := if o.enabled then Form.compileList o.forms else []

/-- Whether bracketed glosses are detected. -/
def detects (o : Options) : Bool := o.enabled && !o.strictMode

/-- The pairs that the options apply. -/
def activePairs (o : Options) : List Brackets :=
  if o.detects then Brackets.compileList o.autoBracketSets else []

/-- The conversion that the options ask for. -/
def render (o : Options) (t : Text) : Text :=
  convert o.activeForms o.activePairs o.patternMatching o.fallback t

end Options

/-- The compiled lists that are kept between conversions. -/
structure Engine where
  forms : Cache (List Form)
  pairs : Cache (List Brackets)

namespace Engine

/-- An engine that has compiled nothing. -/
def fresh : Engine := ⟨.empty Cache.defaultLimit, .empty Cache.defaultLimit⟩

/-- The forms that options apply, compiled if need be. -/
def fetchForms (e : Engine) (o : Options) : List Form × Engine :=
  if o.enabled then
    let (forms, cache) := e.forms.fetch o.forms Form.compileList
    (forms, { e with forms := cache })
  else ([], e)

/-- The pairs that options apply, compiled if need be. -/
def fetchPairs (e : Engine) (o : Options) : List Brackets × Engine :=
  if o.detects then
    let (pairs, cache) := e.pairs.fetch o.autoBracketSets Brackets.compileList
    (pairs, { e with pairs := cache })
  else ([], e)

/-- Converts a text. -/
def render (e : Engine) (o : Options) (t : Text) : Text × Engine :=
  let (forms, e) := e.fetchForms o
  let (pairs, e) := e.fetchPairs o
  (convert forms pairs o.patternMatching o.fallback t, e)

/-! ## Reports -/

/-- What fetching from a cache reports: the compilation, then the flush it may cause. -/
def fetchNotices {α : Type} (c : Cache α) (key : Text) (compilation : Text → List Notice) :
    List Notice :=
  match c.find? key with
  | some _ => []
  | none => compilation key ++ if c.willFlush key then [.cacheFlushed c.limit] else []

/-- What a row of steps reports, each given the text that the steps before it left. -/
def stepNotices {α : Type} (apply : α → Text → Text) (notices : α → Text → List Notice) :
    List α → Text → List Notice
  | [], _ => []
  | a :: rest, t => notices a t ++ stepNotices apply notices rest (apply a t)

/-- What converting a text reports, in the order of the steps. -/
def notices (e : Engine) (o : Options) (t : Text) : List Notice :=
  let aligned := o.patternMatching
  let forms := o.activeForms
  let afterForms := forms.foldl (fun t f => f.apply aligned o.fallback t) t
  Notice.ofFallback o.fallbackBrackets
    ++ (if o.enabled then fetchNotices e.forms o.forms Notice.ofForms else [])
    ++ stepNotices (fun f => f.apply aligned o.fallback) (Notice.ofFormPass aligned) forms t
    ++ (if o.detects then fetchNotices e.pairs o.autoBracketSets Notice.ofPairs else [])
    ++ stepNotices (fun b => b.apply aligned o.fallback) (Notice.ofPairPass aligned) o.activePairs
        afterForms

end Engine

end Furigana
