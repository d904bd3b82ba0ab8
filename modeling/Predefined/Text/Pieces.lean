-- Cutting a text around spans. It is the same rule for whatever finds the spans: pieces between
-- them are kept, also empty ones, and only the empty pieces at the end are dropped.
namespace Predefined.Text

/-- The characters from `start` up to, and without, `stop`, counted from the start of a text. -/
structure Span where
  start : Nat
  stop : Nat
deriving DecidableEq

/-- The pieces between spans, of a text that begins at `position`. Each span begins where the one
before has ended, or later. -/
def cut (position : Nat) (s : List Char) : List Span → List (List Char)
  | [] => [s]
  | m :: ms => s.take (m.start - position) :: cut m.stop (s.drop (m.stop - position)) ms

/-- Drops the empty pieces at the end. -/
def dropEmptyEnd (pieces : List (List Char)) : List (List Char) :=
  (pieces.reverse.dropWhile List.isEmpty).reverse

/-- The pieces of a text around spans. A span that ends where the text begins does not cut, and a
text that nothing cuts is the only piece. -/
def pieces (spans : List Span) (s : List Char) : List (List Char) :=
  match spans.filter (·.stop ≠ 0) with
  | [] => [s]
  | cuts => dropEmptyEnd (cut 0 s cuts)

end Predefined.Text
