-- Patterns. One without special characters stands for itself; any other is a regular expression.
import Predefined.Pattern.Search
import Predefined.Pattern.Size

namespace Predefined

inductive Pattern where
  | literal (part : List Char)
  | regular (p : Pattern.Program)

namespace Pattern

/-- The characters that mean something else than themselves. -/
def special : List Char :=
  ['\\', '.', '+', '*', '?', '(', ')', '|', '[', ']', '\x7b', '\x7d', '^', '$']

def compile (s : String) : Except Fault Pattern := do
  let cs := s.toList
  if cs.any special.contains then
    let r ← (← Regular.ofPattern cs).check
    return regular (.ofRegular r)
  else
    let _ ← (if cs.isEmpty then Regular.empty else Regular.text cs).check
    return literal cs

/-- Where a text occurs from a position on, one occurrence behind the other. The first `skip`
characters belong to an occurrence that was found before. The empty text occurs everywhere. -/
def occurrences (part : List Char) (position skip : Nat) : List Char → List Text.Span
  | [] => if part.isEmpty then [⟨position, position⟩] else []
  | c :: rest =>
    if 0 < skip then occurrences part (position + 1) (skip - 1) rest
    else if part.isPrefixOf (c :: rest) then
      ⟨position, position + part.length⟩ :: occurrences part (position + 1) (part.length - 1) rest
    else occurrences part (position + 1) 0 rest

/-- Where a pattern matches, from the start of a text to its end. -/
def spans : Pattern → List Char → List Text.Span
  | literal part, s => occurrences part 0 0 s
  | regular p, s => p.spans s

end Pattern

end Predefined
