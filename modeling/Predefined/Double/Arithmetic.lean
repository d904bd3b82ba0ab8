-- Arithmetic on doubles. Every result but a power is the exact one, rounded once; a power is left
-- to the machine.
import Predefined.Double.Basic

namespace Predefined.Double

def abs : Double → Double
  | nan => nan
  | infinite _ => infinite false
  | finite _ code h => finite false code h

/-- The whole part of a magnitude, one more when a fraction is left and `up` asks for it. -/
def wholePart (up : Bool) (code : Nat) : Nat :=
  units code / one + (if up && units code % one ≠ 0 then 1 else 0)

/-- The greatest whole number not above. The sign of zero is kept. -/
def floor : Double → Double
  | finite s code _ => ofRatio s (wholePart s code) 1
  | d => d

/-- The least whole number not below. A value between -1 and 0 gives the negative zero. -/
def ceil : Double → Double
  | finite s code _ => ofRatio s (wholePart (!s) code) 1
  | d => d

/-! ## Sums -/

/-- A finite number in units. -/
def signedUnits (negative : Bool) (code : Nat) : Int :=
  if negative then -(units code : Int) else units code

def neg : Double → Double
  | nan => nan
  | infinite s => infinite !s
  | finite s code h => finite (!s) code h

/-- The sum. Two infinities of different signs have none, and a sum of zero is negative only when
both terms are. -/
def add : Double → Double → Double
  | nan, _ | _, nan => nan
  | infinite s, infinite t => if s = t then infinite s else nan
  | infinite s, _ | _, infinite s => infinite s
  | finite s a _, finite t b _ =>
    let sum := signedUnits s a + signedUnits t b
    if sum = 0 then zero (s && t) else ofRatio (sum < 0) sum.natAbs one

def sub (d e : Double) : Double :=
  d.add e.neg

/-! ## Order -/

/-- The place of a number in the order of all numbers, in units. An infinity stands where the next
magnitude after the finite ones would, and what is not a number has no place. -/
def place? : Double → Option Int
  | nan => none
  | infinite s => some (signedUnits s 0x7FF0000000000000)
  | finite s code _ => some (signedUnits s code)

def le (d e : Double) : Bool :=
  match d.place?, e.place? with
  | some p, some q => p ≤ q
  | _, _ => false

def lt (d e : Double) : Bool :=
  match d.place?, e.place? with
  | some p, some q => p < q
  | _, _ => false

/-! ## Rounding to integers -/

def half : Double := ofRatio false 1 2

/-- The nearest whole number, a tie upward: the whole number below, and one more when at least a
half is left. -/
def roundHalfUp (d : Double) : Double :=
  let whole := d.floor
  if half.le (d.sub whole) then whole.add (ofInt 1) else whole

/-- Whether the whole part is an integer of 64 bits. The end of the range is out of it: the greatest
integer is not a double, and the nearest one is the next integer. -/
def fitsInt64 (d : Double) : Bool :=
  (ofInt Int64.minValue.toInt).le d && d.lt (ofInt Int64.maxValue.toInt)

/-- The whole part as an integer of 64 bits, and the end of the range for a number beyond it. What
is not a number gives zero. -/
def toInt64 : Double → Int64
  | nan => 0
  | infinite s => if s then Int64.minValue else Int64.maxValue
  | finite s code _ =>
    let whole := units code / one
    Int64.ofIntClamp (if s then -(whole : Int) else whole)

/-! ## Roots and powers -/

/-- The square root, correctly rounded. The root is taken to 60 places past the last unit, and a
remainder is kept as one more bit, so that the rounding sees on which side of a tie it lies. -/
def sqrt : Double → Double
  | nan => nan
  | infinite s => if s then nan else infinite false
  | finite s code h =>
    if code = 0 then finite s code h
    else if s then nan
    else
      let square := units code * one * Nat.pow 4 60
      let root := Nat.sqrt square
      let sticky := if root * root = square then 0 else 1
      ofRatio false (2 * root + sticky) (one * Nat.pow 2 61)

def pow (base exponent : Double) : Double :=
  ofBits ((Float.ofBits base.bits).pow (Float.ofBits exponent.bits)).toBits

end Predefined.Double
