-- Ranges of characters as ranges of their bytes in UTF-8. A range of characters is cut into as few
-- pieces as it takes, so that each piece has all characters whose first byte is in one range, whose
-- second byte is in one range, and so on.
import Predefined.Encoding.Utf8

namespace Predefined.Utf8

/-- A range of bytes, both ends included. -/
abbrev ByteRange := Nat × Nat

/-- The pieces of the numbers between two bounds, in `k + 1` digits of six bits. -/
def digitPieces : (k : Nat) → (low high : Nat) → List (List ByteRange)
  | 0, low, high => [[(low, high)]]
  | k + 1, low, high =>
    let unit := Nat.pow 64 (k + 1)
    let under (digit low high : Nat) := (digitPieces k low high).map ((digit, digit) :: ·)
    let first := low / unit
    let last := high / unit
    if first = last then under first (low % unit) (high % unit)
    else
      let cutFirst := low % unit ≠ 0
      let cutLast := high % unit ≠ unit - 1
      let start := if cutFirst then first + 1 else first
      let stop := if cutLast then last - 1 else last
      (if cutFirst then under first (low % unit) (unit - 1) else [])
        ++ (if start ≤ stop then [(start, stop) :: List.replicate (k + 1) (0, 63)] else [])
        ++ (if cutLast then under last 0 (high % unit) else [])

/-- A length of encoded characters: the number of bytes behind the first one, what is added to the
first one, and the code points between two bounds. -/
structure Length where
  behind : Nat
  lead : Nat
  low : Nat
  high : Nat

/-- The code points of each length, without the halves of surrogate pairs. -/
def lengths : List Length :=
  [⟨0, 0, 0, 0x7F⟩, ⟨1, 0xC0, 0x80, 0x7FF⟩, ⟨2, 0xE0, 0x800, 0xD7FF⟩, ⟨2, 0xE0, 0xE000, 0xFFFF⟩,
    ⟨3, 0xF0, 0x10000, 0x10FFFF⟩]

/-- The bytes of digits: the first one says how many there are, and the others carry a mark. -/
def Length.bytes (l : Length) : List ByteRange → List ByteRange
  | [] => []
  | (a, b) :: rest => (a + l.lead, b + l.lead) :: rest.map fun (a, b) => (a + 0x80, b + 0x80)

/-- The pieces of a range of code points, in increasing order. -/
def pieces (low high : Nat) : List (List ByteRange) :=
  lengths.flatMap fun l =>
    let low := max low l.low
    let high := min high l.high
    if low ≤ high then (digitPieces l.behind low high).map l.bytes else []

end Predefined.Utf8
