-- Functions on text. Lengths and positions count characters.
import Predefined.EvalError
import Predefined.Text.Search
import Predefined.Unicode.Case

namespace Predefined.Value

/-- The characters of a string, or the elements of an array. -/
def length : Value → Except EvalError Value
  | string s => .ok (integer (Int64.ofNat s.length))
  | array elements => .ok (integer (Int64.ofNat elements.length))
  | _ => .error (.invalidOperands "length" [])

/-! ## Case and blanks -/

/-- Maps the text of a boolean, a number or a string. -/
def mapText (function : String) (f : List Char → List Char) (v : Value) : Except EvalError Value :=
  if v.isPrimitive then .ok (string (String.ofList (f v.text.toList)))
  else .error (.invalidOperands function [])

def toLower (v : Value) : Except EvalError Value :=
  mapText "toLower" Unicode.toLower v

def toUpper (v : Value) : Except EvalError Value :=
  mapText "toUpper" Unicode.toUpper v

/-- The characters that `trim` takes away: the space and all control characters before it. -/
def isTrimmed (c : Char) : Bool :=
  c.toNat ≤ 0x20

def trimmed (s : List Char) : List Char :=
  ((s.dropWhile isTrimmed).reverse.dropWhile isTrimmed).reverse

def trim : Value → Except EvalError Value
  | string s => .ok (string (String.ofList (trimmed s.toList)))
  | _ => .error (.invalidOperands "trim" [])

/-! ## Parts -/

-- A position is a signed integer of 64 bits. Once it is known not to be negative it is taken as an
-- unsigned one and compared with the length.

/-- The characters from `start` on. -/
def substringFrom (source start : Value) : Except EvalError Value :=
  match source, start with
  | string s, integer i =>
    if 0 ≤ i ∧ i.toUInt64.toNat ≤ s.length then
      .ok (string (String.ofList (s.toList.drop i.toUInt64.toNat)))
    else .error (.invalidIndex i s.length)
  | _, _ => .error (.invalidOperands "substring" [source, start])

/-- The characters from `start` up to, and without, `stop`. -/
def substringRange (source start stop : Value) : Except EvalError Value :=
  match source, start, stop with
  | string s, integer i, integer j =>
    if 0 ≤ j ∧ 0 ≤ i ∧ i ≤ j ∧ j.toUInt64.toNat ≤ s.length then
      .ok (string (String.ofList
        ((s.toList.drop i.toUInt64.toNat).take (j - i).toUInt64.toNat)))
    else .error (.invalidRange i j s.length)
  | _, _, _ => .error (.invalidOperands "substring" [source, start, stop])

/-! ## Searching -/

/-- A question about two strings. -/
def compareText (function : String) (holds : List Char → List Char → Bool) (source part : Value) :
    Except EvalError Value :=
  match source, part with
  | string s, string t => .ok (boolean (holds t.toList s.toList))
  | _, _ => .error (.invalidOperands function [source, part])

def startsWith (source part : Value) : Except EvalError Value :=
  compareText "startsWith" List.isPrefixOf source part

def endsWith (source part : Value) : Except EvalError Value :=
  compareText "endsWith" List.isSuffixOf source part

def contains (source part : Value) : Except EvalError Value :=
  compareText "contains" Text.contains source part

/-- Every occurrence of `target` gives way to `replacement`; neither is a pattern. -/
def replace (source target replacement : Value) : Except EvalError Value :=
  match source, target, replacement with
  | string s, string t, string r =>
    .ok (string (String.ofList (Text.replace t.toList r.toList s.toList)))
  | _, _, _ => .error (.invalidOperands "replace" [source, target, replacement])

end Predefined.Value
