-- Base64 with the standard alphabet. Written text is padded to whole quads. Read text may leave out
-- some or all of the padding, and is otherwise held to the form in which it would be written: no
-- symbols outside the alphabet, no padding inside, and no bits that the bytes do not need.
import Predefined.Decimal

namespace Predefined.Base64

/-! ## The alphabet -/

/-- The symbol of a number below 64. -/
def symbol (n : Nat) : UInt8 :=
  if n < 26 then UInt8.ofNat (65 + n)
  else if n < 52 then UInt8.ofNat (97 + (n - 26))
  else if n < 62 then UInt8.ofNat (48 + (n - 52))
  else if n = 62 then 43
  else 47

/-- The number of a symbol. -/
def value? (b : UInt8) : Option Nat :=
  let n := b.toNat
  if 65 ≤ n ∧ n < 91 then some (n - 65)
  else if 97 ≤ n ∧ n < 123 then some (n - 97 + 26)
  else if 48 ≤ n ∧ n < 58 then some (n - 48 + 52)
  else if n = 43 then some 62
  else if n = 47 then some 63
  else none

/-- The padding sign, `=`. -/
def pad : UInt8 := 61

/-! ## Writing -/

/-- The symbols of bytes, four for each three bytes. The last one or two bytes are filled up with
zero bits, and their quad with padding. -/
def encode : List UInt8 → List UInt8
  | [] => []
  | [a] => [symbol (a.toNat / 4), symbol (a.toNat % 4 * 16), pad, pad]
  | [a, b] =>
    [symbol (a.toNat / 4), symbol (a.toNat % 4 * 16 + b.toNat / 16), symbol (b.toNat % 16 * 4), pad]
  | a :: b :: c :: rest =>
    symbol (a.toNat / 4) :: symbol (a.toNat % 4 * 16 + b.toNat / 16)
      :: symbol (b.toNat % 16 * 4 + c.toNat / 64) :: symbol (c.toNat % 64) :: encode rest

/-! ## Reading -/

/-- Why a text is not base64. Offsets count bytes from the start of the text. -/
inductive Fault where
  /-- A byte that is no symbol, or a padding sign where none may stand. -/
  | invalidSymbol (byte : UInt8) (offset : Nat)
  /-- The last symbol has bits that belong to no byte. -/
  | invalidLastSymbol (byte : UInt8) (offset : Nat)
  /-- A single symbol is left over, which holds less than a byte. -/
  | invalidLength (length : Nat)
deriving DecidableEq

def Fault.text : Fault → String
  | invalidSymbol b n => "Invalid symbol " ++ Decimal.natText b.toNat ++ ", offset "
      ++ Decimal.natText n ++ "."
  | invalidLastSymbol b n => "Invalid last symbol " ++ Decimal.natText b.toNat ++ ", offset "
      ++ Decimal.natText n ++ "."
  | invalidLength n => "Invalid input length: " ++ Decimal.natText n

/-- The number of the symbol at an offset. -/
def valueAt (offset : Nat) (b : UInt8) : Except Fault Nat :=
  match value? b with
  | some n => .ok n
  | none => .error (.invalidSymbol b offset)

def valuesFrom (offset : Nat) : List UInt8 → Except Fault (List Nat)
  | [] => .ok []
  | b :: bs => do
    let n ← valueAt offset b
    let ns ← valuesFrom (offset + 1) bs
    pure (n :: ns)

/-- The three bytes of four numbers. -/
def triple (a b c d : Nat) : List UInt8 :=
  [UInt8.ofNat (a * 4 + b / 16), UInt8.ofNat (b % 16 * 16 + c / 4), UInt8.ofNat (c % 4 * 64 + d)]

/-- The bytes of the numbers in the last quad. -/
def lastBytes (offset : Nat) : List Nat → Except Fault (List UInt8)
  | [] => .ok []
  | [_] => .error (.invalidLength (offset + 1))
  | [a, b] =>
    if b % 16 = 0 then .ok [UInt8.ofNat (a * 4 + b / 16)]
    else .error (.invalidLastSymbol (symbol b) (offset + 1))
  | [a, b, c] =>
    if c % 4 = 0 then .ok [UInt8.ofNat (a * 4 + b / 16), UInt8.ofNat (b % 16 * 16 + c / 4)]
    else .error (.invalidLastSymbol (symbol c) (offset + 2))
  | a :: b :: c :: d :: _ => .ok (triple a b c d)

/-- The last quad, of at most four bytes. Its padding starts after at least two symbols, and nothing
but padding follows. -/
def decodeLast (offset : Nat) (quad : List UInt8) : Except Fault (List UInt8) := do
  let symbols := quad.takeWhile (· != pad)
  let padding := quad.dropWhile (· != pad)
  let values ← valuesFrom offset symbols
  if !padding.isEmpty && (symbols.length < 2 || padding.any (· != pad)) then
    throw (.invalidSymbol pad (offset + symbols.length))
  lastBytes offset values

/-- A quad that others follow has four symbols and no padding. -/
def decodeFrom (offset : Nat) : List UInt8 → Except Fault (List UInt8)
  | a :: b :: c :: d :: e :: rest => do
    let a ← valueAt offset a
    let b ← valueAt (offset + 1) b
    let c ← valueAt (offset + 2) c
    let d ← valueAt (offset + 3) d
    let bytes ← decodeFrom (offset + 4) (e :: rest)
    pure (triple a b c d ++ bytes)
  | quad => decodeLast offset quad

/-- A byte that stands alone after whole quads and can belong to no base64 text. It is reported
before any other fault. -/
def strayLast? (text : List UInt8) : Option Fault :=
  if text.length % 4 = 1 then
    match text.getLast? with
    | some b =>
      if b = pad ∨ (value? b).isSome then none
      else some (.invalidSymbol b (text.length - 1))
    | none => none
  else none

/-- The bytes of a text, given as bytes itself. -/
def decode (text : List UInt8) : Except Fault (List UInt8) :=
  match strayLast? text with
  | some fault => .error fault
  | none => decodeFrom 0 text

end Predefined.Base64
