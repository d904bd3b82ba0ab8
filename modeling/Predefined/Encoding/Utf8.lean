-- UTF-8. Every text can be written. Reading never fails: bytes that are no text are replaced, and
-- each longest beginning of a character that its next byte does not continue becomes one
-- replacement character.
namespace Predefined.Utf8

/-! ## Writing -/

/-- The byte that carries six bits after the first byte of a character. -/
def trailing (n : Nat) : UInt8 :=
  UInt8.ofNat (0x80 + n % 0x40)

def encodeChar (c : Char) : List UInt8 :=
  let n := c.toNat
  if n < 0x80 then [UInt8.ofNat n]
  else if n < 0x800 then [UInt8.ofNat (0xC0 + n / 0x40), trailing n]
  else if n < 0x10000 then [UInt8.ofNat (0xE0 + n / 0x1000), trailing (n / 0x40), trailing n]
  else [UInt8.ofNat (0xF0 + n / 0x40000), trailing (n / 0x1000), trailing (n / 0x40), trailing n]

def encode (s : List Char) : List UInt8 :=
  s.flatMap encodeChar

/-! ## Reading -/

/-- Stands for bytes that are no text. -/
def replacement : Char := '\uFFFD'

/-- A character that has begun: its bits so far, the number of bytes that are still owed, and the
range of the next one. The range is narrower than that of a trailing byte after those first bytes
that could also begin a longer form than needed, a surrogate, or a number past the last character.
-/
structure Unfinished where
  bits : Nat
  owed : Nat
  low : Nat
  high : Nat
deriving DecidableEq

/-- What the first byte of a character gives: characters that are now known, and one that has
begun. -/
def begin (b : UInt8) : List Char × Option Unfinished :=
  let n := b.toNat
  if n < 0x80 then ([Char.ofNat n], none)
  else if n < 0xC2 then ([replacement], none)
  else if n < 0xE0 then ([], some ⟨n - 0xC0, 1, 0x80, 0xBF⟩)
  else if n = 0xE0 then ([], some ⟨0, 2, 0xA0, 0xBF⟩)
  else if n = 0xED then ([], some ⟨0xD, 2, 0x80, 0x9F⟩)
  else if n < 0xF0 then ([], some ⟨n - 0xE0, 2, 0x80, 0xBF⟩)
  else if n = 0xF0 then ([], some ⟨0, 3, 0x90, 0xBF⟩)
  else if n < 0xF4 then ([], some ⟨n - 0xF0, 3, 0x80, 0xBF⟩)
  else if n = 0xF4 then ([], some ⟨4, 3, 0x80, 0x8F⟩)
  else ([replacement], none)

/-- One byte of reading. A byte that does not continue the character that has begun is read again as
the first of its own. -/
def step : Option Unfinished → UInt8 → List Char × Option Unfinished
  | none, b => begin b
  | some u, b =>
    if u.low ≤ b.toNat ∧ b.toNat ≤ u.high then
      let bits := u.bits * 0x40 + b.toNat % 0x40
      if u.owed = 1 then ([Char.ofNat bits], none)
      else ([], some ⟨bits, u.owed - 1, 0x80, 0xBF⟩)
    else
      let (cs, next) := begin b
      (replacement :: cs, next)

def decodeFrom : Option Unfinished → List UInt8 → List Char
  | none, [] => []
  | some _, [] => [replacement]
  | state, b :: bs =>
    let (cs, next) := step state b
    cs ++ decodeFrom next bs

/-- The text of bytes, with a replacement character for each ill-formed piece. -/
def decode (bytes : List UInt8) : List Char :=
  decodeFrom none bytes

end Predefined.Utf8
