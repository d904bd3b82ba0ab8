-- Finding and replacing a text inside another one. Occurrences are taken from left to right and do
-- not overlap.
namespace Predefined.Text

/-- Whether `part` stands somewhere in a text. -/
def contains (part : List Char) : List Char → Bool
  | [] => part.isEmpty
  | c :: rest => part.isPrefixOf (c :: rest) || contains part rest

/-- Puts `new` in the place of every occurrence of the non-empty `part`. The first `skip` characters
belong to an occurrence that was found before. -/
def replaceFrom (part new : List Char) (skip : Nat) : List Char → List Char
  | [] => []
  | c :: rest =>
    if 0 < skip then replaceFrom part new (skip - 1) rest
    else if part.isPrefixOf (c :: rest) then new ++ replaceFrom part new (part.length - 1) rest
    else c :: replaceFrom part new 0 rest

/-- Puts `new` in the place of every occurrence of `part`. The empty text occurs before each
character and at the end. -/
def replace (part new s : List Char) : List Char :=
  if part.isEmpty then s.flatMap (fun c => new ++ [c]) ++ new
  else replaceFrom part new 0 s

end Predefined.Text
