-- The fewest decimal digits that read back to a double. The digits of a number are searched on
-- coarser grids first; on each grid only the two neighbours of the number can be nearest to it.
import Predefined.Double.Basic

namespace Predefined

/-- A positive decimal number `digits * 10 ^ exponent`. -/
structure Scientific where
  digits : Nat
  exponent : Int
deriving DecidableEq

/-- The number without the zeros at the end of its digits. -/
def Scientific.stripped (d : Scientific) : Scientific :=
  ⟨(Decimal.stripZeros d.digits).1, d.exponent + (Decimal.stripZeros d.digits).2⟩

namespace Double

/-- Which of two equally near decimals is written. -/
inductive Tie where
  | toEven
  | upward
deriving DecidableEq

/-- The number of places before the decimal point of a magnitude: the least `k` with the value below
`10 ^ k`. It is negative for small values. Multiplying by 10^400 makes every positive magnitude
large enough to be counted by its whole digits. -/
def leadingPlace (code : Nat) : Int :=
  (Decimal.digits (units code * Nat.pow 10 400 / one)).length - 400

/-- Whether a decimal rounds to the magnitude. -/
def readsBack (code : Nat) (d : Scientific) : Bool :=
  match ofDecimal false d.digits d.exponent with
  | finite _ c _ => c = code
  | _ => false

/-- The nearer one of the decimals on both sides of `num / den` units of their last place. -/
def nearer (tie : Tie) (num den : Nat) (below above : Scientific) : Scientific :=
  let twice := 2 * (num % den)
  if twice < den then below
  else if den < twice then above
  else match tie with
    | .upward => above
    | .toEven => if below.digits % 2 = 0 then below else above

/-- The better of the two neighbours of a magnitude among the multiples of `10 ^ exponent` that read
back, if one does. -/
def onGrid (tie : Tie) (code : Nat) (exponent : Int) : Option Scientific :=
  let num := units code * Nat.pow 10 (-exponent).toNat
  let den := one * Nat.pow 10 exponent.toNat
  let below : Scientific := ⟨num / den, exponent⟩
  let above : Scientific := ⟨num / den + 1, exponent⟩
  if readsBack code below then
    some (if readsBack code above then nearer tie num den below above else below)
  else if readsBack code above then some above
  else none

/-- The decimal of the coarsest grid that has one. Seventeen digits always suffice, so the exact
value at the end is never needed. -/
def firstOnGrid (tie : Tie) (code : Nat) : Scientific :=
  let place := leadingPlace code
  let grids := (List.range 17).map fun n => place - (n + 1 : Nat)
  (grids.findSome? (onGrid tie code)).getD ⟨units code * Nat.pow 5 1074, -1074⟩

/-- The shortest decimal that reads back to a magnitude. -/
def shortest (tie : Tie) (code : Nat) : Scientific :=
  (firstOnGrid tie code).stripped

end Double

end Predefined
