-- The text of a double and the reading of one. A whole number is written out to its last digit and
-- ends in `.0`; any other finite number has the fewest digits that read back, and no exponent.
import Predefined.Double.Shortest

namespace Predefined

/-- Lower-case letters of ASCII; other characters stay. -/
def asciiLower (s : List Char) : List Char :=
  s.map Char.toLower

namespace Double

/-- Puts the decimal point into digits: `exponent` is not positive, and a zero stands before a
leading point. -/
def placePoint (digits : List Digit) (exponent : Int) : List Char :=
  let places := (-exponent).toNat
  if places < digits.length then
    let whole := digits.length - places
    Decimal.chars (digits.take whole) ++ '.' :: Decimal.chars (digits.drop whole)
  else '0' :: '.' :: (List.replicate (places - digits.length) '0' ++ Decimal.chars digits)

/-- The text of a magnitude without its sign. Of two equally near shortest texts the greater number
is written. -/
def magnitudeChars (code : Nat) : List Char :=
  if units code % one = 0 then Decimal.natChars (units code / one) ++ ['.', '0']
  else
    let d := shortest .upward code
    placePoint (Decimal.digits d.digits) d.exponent

def signChars (negative : Bool) : List Char :=
  if negative then ['-'] else []

def chars : Double → List Char
  | nan => "NaN".toList
  | infinite s => signChars s ++ "Infinity".toList
  | finite s code _ => signChars s ++ magnitudeChars code

def text (d : Double) : String :=
  String.ofList d.chars

/-! ## Reading -/

/-- The number of an exponent. It does not grow any more once it has reached 65536: the digits
behind that are passed over. -/
def exponentValue (ds : List Digit) : Nat :=
  ds.foldl (fun n d => if n < 0x10000 then 10 * n + d.val else n) 0

/-- An exponent part: nothing, or `e` with a sign and at least one digit. -/
def readExponent : List Char → Option Int
  | [] => some 0
  | e :: rest =>
    if e = 'e' ∨ e = 'E' then
      let (negative, ds) := match rest with
        | '-' :: r => (true, Decimal.scan r)
        | '+' :: r => (false, Decimal.scan r)
        | r => (false, Decimal.scan r)
      match ds with
      | (d :: ds, []) =>
        let n : Int := exponentValue (d :: ds)
        some (if negative then -n else n)
      | _ => none
    else none

/-- A number without its sign: digits with at most one point among them, at least one digit in all,
and an exponent part. -/
def readMagnitude (negative : Bool) (s : List Char) : Option Double :=
  let (whole, rest) := Decimal.scan s
  let (fraction, rest) := match rest with
    | '.' :: r => Decimal.scan r
    | r => ([], r)
  if whole.isEmpty && fraction.isEmpty then none
  else (readExponent rest).map fun e =>
    ofDecimal negative (Decimal.value (whole ++ fraction)) (e - fraction.length)

/-- Reads a decimal number, or one of the names `nan`, `inf` and `infinity` in any case, after an
optional sign. The result is the nearest double. -/
def readChars (s : List Char) : Option Double :=
  let (negative, body) := match s with
    | '-' :: r => (true, r)
    | '+' :: r => (false, r)
    | r => (false, r)
  let name := String.ofList (asciiLower body)
  if name = "nan" then some nan
  else if name = "inf" ∨ name = "infinity" then some (infinite negative)
  else readMagnitude negative body

end Double

end Predefined
