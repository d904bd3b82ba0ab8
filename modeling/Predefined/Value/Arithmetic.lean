-- Functions on numbers. Integers stay integers wherever the operation allows it.
import Predefined.Double.Arithmetic
import Predefined.EvalError
import Predefined.Settings

namespace Predefined.Value

/-- The least integer has no absolute value. -/
def abs : Value → Except EvalError Value
  | integer i =>
    if i = Int64.minValue then .error (.overflow "abs" (Decimal.intText i.toInt))
    else .ok (integer i.abs)
  | double d => .ok (double d.abs)
  | _ => .error (.invalidOperands "abs" [])

def ceil : Value → Except EvalError Value
  | integer i => .ok (integer i)
  | double d => .ok (double d.ceil)
  | _ => .error (.invalidOperands "ceil" [])

def floor : Value → Except EvalError Value
  | integer i => .ok (integer i)
  | double d => .ok (double d.floor)
  | _ => .error (.invalidOperands "floor" [])

/-- The nearest integer, a tie upward. A double that has none of 64 bits is up to the policy. -/
def round (policy : OverflowPolicy) : Value → Except EvalError Value
  | integer i => .ok (integer i)
  | double d =>
    let rounded := d.roundHalfUp
    if rounded.fitsInt64 then .ok (integer rounded.toInt64)
    else
      match policy with
      | .fail => .error (.overflow "round" d.text)
      | .saturate => .ok (integer rounded.toInt64)
  | _ => .error (.invalidOperands "round" [])

/-- The square root as a double. -/
def sqrt (source : Value) : Except EvalError Value :=
  match source.asDouble? with
  | some d => .ok (double d.sqrt)
  | none => .error (.invalidOperands "sqrt" [])

/-- The power as a double. -/
def pow (source exponent : Value) : Except EvalError Value :=
  match source.asDouble?, exponent.asDouble? with
  | some b, some e => .ok (double (b.pow e))
  | _, _ => .error (.invalidOperands "pow" [source, exponent])

end Predefined.Value
