-- What a document says as a JSON value. Numbers outside the 64-bit integers become doubles,
-- strings must stand for text, of two members with one key the later one counts, and arrays and
-- objects nest at most 127 deep.
import Predefined.Json.Basic
import Predefined.Json.Reader

namespace Predefined.Json

/-! ## Decimal fractions

A number with a fraction or an exponent is not read exactly. Its digits are collected in a 64-bit
significand. Once a digit does not fit, further digits before the point only raise the exponent, and
further ones behind it are dropped. The significand is then rounded to a double, and multiplied or
divided by a power of ten that is itself rounded to a double. -/

/-- Adds digits to a significand while it stays below 2^64, and gives the digits left over. -/
def significand (start : Nat) : List Digit → Nat × List Digit
  | [] => (start, [])
  | d :: ds =>
    if 10 * start + d.val < 0x10000000000000000 then significand (10 * start + d.val) ds
    else (start, d :: ds)

/-- Scales the magnitude of a code by `10 ^ exponent`. Steps go by at most 10^308, the greatest
power of ten that is a double. There is no result when a value becomes too large. -/
def scale (code : Nat) (exponent : Int) : Option Nat :=
  if exponent.natAbs ≤ 308 then
    let power := Double.nearest (Nat.pow 10 exponent.natAbs) 1
    if 0 ≤ exponent then
      let scaled :=
        Double.nearest (Double.units code * Double.units power) (Double.one * Double.one)
      if scaled < 0x7FF0000000000000 then some scaled else none
    else some (Double.nearest (Double.units code) (Double.units power))
  else if code = 0 then some 0
  else if 0 ≤ exponent then none
  else
    scale (Double.nearest (Double.units code) (Double.units (Double.nearest (Nat.pow 10 308) 1)))
      (exponent + 308)
termination_by exponent.natAbs

/-- The exponent part of a numeral, when it has at most 31 bits. -/
def smallExponent? : Option (Bool × List Digit) → Option Int
  | none => some 0
  | some (negative, ds) =>
    let n := Decimal.value ds
    if n < 0x80000000 then some (if negative then -n else n) else none

/-- The double that a numeral stands for, unless it is too large. An exponent beyond 31 bits makes
the value zero or too large, whatever the digits. -/
def Numeral.double? (n : Numeral) : Option Number :=
  let (m, wholeLeft) := significand 0 n.whole
  let (m, fractionLeft) := significand m n.fraction
  let fixed : Int := wholeLeft.length - (n.fraction.length - fractionLeft.length : Nat)
  let code? := match smallExponent? n.exponent with
    | some e => scale (Double.nearest m 1) (fixed + e)
    | none =>
      match n.exponent with
      | some (false, _) => if m = 0 then some 0 else none
      | _ => some 0
  code?.bind fun code =>
    if h : code < 0x7FF0000000000000 then some (.double (.finite n.negative code h) rfl) else none

/-- The number that a numeral stands for. An integer that does not fit in 64 bits is a double, and
so is a negative zero. -/
def Number.ofNumeral? (n : Numeral) : Option Number :=
  let m := Decimal.value n.whole
  let value : Int := if n.negative then -m else m
  if h : (n.fraction = [] ∧ n.exponent = none) ∧ ¬(n.negative = true ∧ m = 0)
      ∧ -0x8000000000000000 ≤ value ∧ value < 0x10000000000000000 then
    some (.integer value h.2.2)
  else n.double?

/-! ## Values -/

mutual

/-- The value of a document that may nest `room` levels deep. -/
def ofTree? (room : Nat) : Tree → Option Json
  | .null => some null
  | .bool b => some (bool b)
  | .number n => (Number.ofNumeral? n).map number
  | .string q => q.map string
  | .array ts => if room = 0 then none else (ofElements? (room - 1) ts).map array
  | .object ms =>
    if room = 0 then none else (ofMembers? (room - 1) ms).map fun ps => object (Table.ofPairs ps)

def ofElements? (room : Nat) : List Tree → Option (List Json)
  | [] => some []
  | t :: ts => do
    let j ← ofTree? room t
    let js ← ofElements? room ts
    pure (j :: js)

def ofMembers? (room : Nat) : List (Quoted × Tree) → Option (List (String × Json))
  | [] => some []
  | (key, t) :: ms => do
    let key ← key
    let j ← ofTree? room t
    let ps ← ofMembers? room ms
    pure ((key, j) :: ps)

end

/-- How many levels of arrays and objects a document may have. -/
def nestingLimit : Nat := 127

/-- Reads a JSON text. -/
def parse? (s : String) : Option Json :=
  (Tree.parse? s).bind (ofTree? nestingLimit)

end Predefined.Json
