-- The coding of form fields in a query: a space is written as a plus sign, and all bytes but a few
-- plain ones as escapes. Reading undoes every escape and lets everything else pass.
import Predefined.Encoding.Utf8
import Predefined.Hex

namespace Predefined.Form

/-- The bytes that stand for themselves: ASCII letters and digits, and `*`, `-`, `.` and `_`. -/
def isPlain (b : UInt8) : Bool :=
  let n := b.toNat
  (48 ≤ n && n < 58) || (65 ≤ n && n < 91) || (97 ≤ n && n < 123)
    || n == 42 || n == 45 || n == 46 || n == 95

def encodeByte (b : UInt8) : List Char :=
  if isPlain b then [Char.ofNat b.toNat]
  else if b = 32 then ['+']
  else ['%', Hex.upperDigit (b.toNat / 16), Hex.upperDigit (b.toNat % 16)]

def encode (bytes : List UInt8) : List Char :=
  bytes.flatMap encodeByte

/-- The byte of two hexadecimal digits, themselves given as bytes. -/
def escaped? (high low : UInt8) : Option UInt8 := do
  let h ← Hex.value? (Char.ofNat high.toNat)
  let l ← Hex.value? (Char.ofNat low.toNat)
  pure (UInt8.ofNat (16 * h + l))

/-- Replaces escapes. A percent sign without two digits after it stays as it is. -/
def unescape : List UInt8 → List UInt8
  | 37 :: high :: low :: rest =>
    match escaped? high low with
    | some b => b :: unescape rest
    | none => 37 :: unescape (high :: low :: rest)
  | b :: rest => b :: unescape rest
  | [] => []

/-- The text of a coded field. Plus signs turn into spaces before the escapes are read, so that an
escaped plus sign stays one. -/
def decode (text : List Char) : List Char :=
  let spaced := text.map fun c => if c = '+' then ' ' else c
  Utf8.decode (unescape (Utf8.encode spaced))

end Predefined.Form
