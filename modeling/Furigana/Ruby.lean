import Furigana.Brackets

/-!
# Ruby markup

The result of a conversion is a list of segments, and a pair of fallback brackets turns it into
markup.  The gloss stands between fallback brackets that only show where ruby is not supported, so
`base【gloss】` is what remains when the tags are dropped.
-/

namespace Furigana

/-- A piece of converted text. -/
inductive Segment where
  /-- A base with the gloss above it. -/
  | ruby (base gloss : Text)
  /-- Text that carries no gloss. -/
  | literal (text : Text)
deriving DecidableEq, Repr

/-- The text that a segment keeps when glosses are dropped. -/
def Segment.base : Segment → Text
  | .ruby base _ => base
  | .literal text => text

/-- The tags that markup is made of. -/
def rubyTags : List Text := ["ruby".toList, "rt".toList, "rp".toList]

namespace Brackets

/-- One annotation, with `b` as its fallback. -/
def ruby (b : Brackets) (base gloss : Text) : Text :=
  "<ruby>".toList ++ base ++ "<rp>".toList ++ [b.opening] ++ "</rp><rt>".toList ++ gloss
    ++ "</rt><rp>".toList ++ [b.closing] ++ "</rp></ruby>".toList

/-- The markup of one segment. -/
def segment (b : Brackets) : Segment → Text
  | .ruby base gloss => b.ruby base gloss
  | .literal text => text

/-- The markup of segments, one after the other. -/
def markup (b : Brackets) (segments : List Segment) : Text := segments.flatMap b.segment

@[simp] theorem markup_nil (b : Brackets) : b.markup [] = [] := rfl

@[simp] theorem markup_cons (b : Brackets) (s : Segment) (rest : List Segment) :
    b.markup (s :: rest) = b.segment s ++ b.markup rest := rfl

end Brackets

end Furigana
