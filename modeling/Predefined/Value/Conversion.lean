-- Conversions between the kinds of values. Most go by way of the text of a value.
import Predefined.EvalError
import Predefined.Unicode.Property

namespace Predefined.Value

/-- Reads digits after an optional sign, when the number has at most 64 bits. -/
def int64OfText? (s : String) : Option Int64 :=
  let (negative, body) := match s.toList with
    | '-' :: r => (true, r)
    | '+' :: r => (false, r)
    | r => (false, r)
  match Decimal.scan body with
  | ([], _) => none
  | (ds, []) =>
    let n : Int := if negative then -(Decimal.value ds : Int) else Decimal.value ds
    if -0x8000000000000000 ≤ n ∧ n < 0x8000000000000000 then some (Int64.ofInt n) else none
  | _ => none

def toInteger : Value → Except EvalError Value
  | integer i => .ok (integer i)
  | v =>
    match int64OfText? v.text with
    | some i => .ok (integer i)
    | none => .error (.conversion "integer")

def isSpace (c : Char) : Bool :=
  Property.whiteSpace.contains c.toNat

/-- Takes away the white space at both ends. -/
def stripped (s : List Char) : List Char :=
  ((s.dropWhile isSpace).reverse.dropWhile isSpace).reverse

def toFloat : Value → Except EvalError Value
  | double d => .ok (double d)
  | v =>
    match Double.readChars (stripped v.text.toList) with
    | some d => .ok (double d)
    | none => .error (.conversion "float")

/-- True for the boolean and for texts that read `true`. -/
def toBoolean : Value → Value
  | boolean b => boolean b
  | v => boolean (isTrueText v.text)

def toObject : Value → Except EvalError Value
  | object members => .ok (object members)
  | _ => .error (.notConvertible "object")

def toArray : Value → Except EvalError Value
  | array elements => .ok (array elements)
  | _ => .error (.notConvertible "array")

/-- The negated truth value. -/
def not (v : Value) : Except EvalError Value :=
  match v.asBoolean? with
  | some b => .ok (boolean !b)
  | none => .error (.invalidOperands "not" [])

end Predefined.Value
