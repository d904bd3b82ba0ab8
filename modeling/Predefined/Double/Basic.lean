-- Double-precision numbers as exact values. A finite magnitude is a whole number of units of
-- 2^-1074, the least positive double, and is named by its code, the place it has among all finite
-- magnitudes in increasing order. Codes are consecutive, so the neighbours of a double are one code
-- away, and equal codes are equal numbers: as many as 2^52 share a shift of the mantissa, and there
-- are 2047 * 2^52 of them. Every operation works on whole numbers and rounds once.
import Predefined.Decimal

namespace Predefined

/-- A double: not a number, an infinity, or a finite number. Zero has a sign. -/
inductive Double where
  | nan
  | infinite (negative : Bool)
  | finite (negative : Bool) (code : Nat) (code_lt : code < 0x7FF0000000000000)
deriving DecidableEq

namespace Double

/-! ## Magnitudes -/

/-- How far the mantissa of a magnitude is shifted to the left. Codes below 2^53 are not shifted:
they count units themselves. -/
def shift (code : Nat) : Nat :=
  code / 0x10000000000000 - 1

/-- The leading bits of a magnitude, 53 of them once the code reaches 2^52. -/
def mantissa (code : Nat) : Nat :=
  code - shift code * 0x10000000000000

/-- A magnitude in units of 2^-1074. -/
def units (code : Nat) : Nat :=
  mantissa code * Nat.pow 2 (shift code)

/-- The number of units in 1. -/
def one : Nat := Nat.pow 2 1074

/-- The quotient rounded to the nearest whole number, a tie to the even one. -/
def roundDiv (num den : Nat) : Nat :=
  let quotient := num / den
  let remainder := num % den
  if 2 * remainder < den then quotient
  else if den < 2 * remainder then quotient + 1
  else if quotient % 2 = 0 then quotient else quotient + 1

/-- The code of the magnitude nearest to `num / den`, a tie to the even mantissa. Codes past the
last finite one stand for values that round to infinity. A mantissa that rounds up to 2^53 carries
into the next shift by itself, because codes are consecutive. -/
def nearest (num den : Nat) : Nat :=
  let scaled := num * one
  let places := (scaled / den).log2 - 52
  places * 0x10000000000000 + roundDiv scaled (den * Nat.pow 2 places)

/-! ## Doubles from exact values -/

def ofCode (negative : Bool) (code : Nat) : Double :=
  if h : code < 0x7FF0000000000000 then finite negative code h else infinite negative

def zero (negative : Bool) : Double :=
  finite negative 0 (by decide)

/-- The double nearest to a ratio of whole numbers, with the sign given. -/
def ofRatio (negative : Bool) (num den : Nat) : Double :=
  ofCode negative (nearest num den)

def ofInt (i : Int) : Double :=
  ofRatio (i < 0) i.natAbs 1

/-- The double nearest to `digits * 10 ^ exponent`. Values of more than 310 places are infinite and
values below 10^-330 are zero, whatever their digits, so no large power of ten is computed. Ten bits
are more than three places, and three bits are less than one. -/
def ofDecimal (negative : Bool) (digits : Nat) (exponent : Int) : Double :=
  if digits = 0 then zero negative
  else
    let bits : Int := digits.log2
    if 310 < 3 * bits / 10 + exponent then infinite negative
    else if bits / 3 + 1 + exponent < -330 then zero negative
    else if 0 ≤ exponent then ofRatio negative (digits * Nat.pow 10 exponent.toNat) 1
    else ofRatio negative digits (Nat.pow 10 (-exponent).toNat)

/-! ## Reading a double -/

def isNaN : Double → Bool
  | nan => true
  | _ => false

def isFinite : Double → Bool
  | finite .. => true
  | _ => false

/-- Whether the number is a zero of either sign. -/
def isZero : Double → Bool
  | finite _ code _ => code = 0
  | _ => false

/-- Numeric equality: a not-a-number equals nothing, and the two zeros are equal. -/
def equals : Double → Double → Bool
  | finite s a _, finite t b _ => a = b && (s = t || a = 0)
  | infinite s, infinite t => s = t
  | _, _ => false

/-! ## The 64-bit form -/

/-- The bits of a double: the sign, then the code. All not-a-numbers are one. -/
def bits : Double → UInt64
  | nan => 0x7FF8000000000000
  | infinite s => UInt64.ofNat ((if s then 0x8000000000000000 else 0) + 0x7FF0000000000000)
  | finite s code _ => UInt64.ofNat ((if s then 0x8000000000000000 else 0) + code)

def ofBits (b : UInt64) : Double :=
  let negative := 0x8000000000000000 ≤ b.toNat
  let code := b.toNat % 0x8000000000000000
  if 0x7FF0000000000000 < code then nan else ofCode negative code

end Double

end Predefined
