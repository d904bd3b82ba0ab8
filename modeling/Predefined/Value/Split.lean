-- Splitting text around the matches of a pattern.
import Predefined.EvalError
import Predefined.Pattern.Basic

namespace Predefined.Value

/-- The pieces of a text between the matches of a pattern. -/
def split (source pattern : Value) : Except EvalError Value :=
  match source, pattern with
  | string s, string p =>
    match Pattern.compile p with
    | .ok compiled =>
      let cs := s.toList
      let pieces := Text.pieces (compiled.spans cs) cs
      .ok (array (pieces.map fun piece => .string (String.ofList piece)))
    | .error fault => .error (.invalidPattern p fault)
  | _, _ => .error (.invalidOperands "split" [source, pattern])

end Predefined.Value
