-- Sets of characters as ranges of code points, and the text in which tables of such ranges are
-- written.
import Predefined.Hex

namespace Predefined

/-- Ranges of code points, both ends included. They are in increasing order, and a gap lies between
any two of them. -/
structure CharSet where
  ranges : List (Nat × Nat)
deriving DecidableEq

namespace CharSet

/-- The last code point. -/
def last : Nat := 0x10FFFF

/-- Joins ranges that touch or overlap. They come in increasing order of their lower ends. -/
def merge : List (Nat × Nat) → List (Nat × Nat)
  | [] => []
  | [r] => [r]
  | (a, b) :: (c, d) :: rest =>
    if c ≤ b + 1 then merge ((a, max b d) :: rest) else (a, b) :: merge ((c, d) :: rest)
termination_by rs => rs.length

/-- The set of ranges in any order. -/
def ofRanges (ranges : List (Nat × Nat)) : CharSet :=
  ⟨merge (ranges.mergeSort fun p q => p.1 ≤ q.1)⟩

def empty : CharSet := ⟨[]⟩

def all : CharSet := ⟨[(0, last)]⟩

def range (low high : Nat) : CharSet := ⟨[(low, high)]⟩

def single (c : Char) : CharSet := range c.toNat c.toNat

def ofChars (cs : List Char) : CharSet :=
  ofRanges (cs.map fun c => (c.toNat, c.toNat))

def contains (s : CharSet) (n : Nat) : Bool :=
  s.ranges.any fun (a, b) => a ≤ n && n ≤ b

def isEmpty (s : CharSet) : Bool := s.ranges.isEmpty

/-! ## Algebra -/

def union (s t : CharSet) : CharSet :=
  ofRanges (s.ranges ++ t.ranges)

def unions (sets : List CharSet) : CharSet :=
  ofRanges (sets.flatMap ranges)

/-- The code point behind another one. The halves of surrogate pairs are passed over. -/
def next (n : Nat) : Nat := if n = 0xD7FF then 0xE000 else n + 1

def previous (n : Nat) : Nat := if n = 0xE000 then 0xD7FF else n - 1

/-- The range from `low` to `high`, in whichever order they are. -/
def ordered (low high : Nat) : Nat × Nat := (min low high, max low high)

/-- The gaps behind the first of some ranges. Where nothing but surrogate pairs lies between two
ranges, their neighbouring ends take the place of the gap. -/
def gaps : List (Nat × Nat) → List (Nat × Nat)
  | [] => []
  | [(_, b)] => if b < last then [(next b, last)] else []
  | (_, b) :: (c, d) :: rest => ordered (next b) (previous c) :: gaps ((c, d) :: rest)

def compl (s : CharSet) : CharSet :=
  match s.ranges with
  | [] => all
  | (a, b) :: rest => ⟨(if 0 < a then [(0, previous a)] else []) ++ gaps ((a, b) :: rest)⟩

/-- What two lists of ranges have in common. -/
def interRanges : List (Nat × Nat) → List (Nat × Nat) → List (Nat × Nat)
  | (a, b) :: r, (c, d) :: s =>
    let common := if max a c ≤ min b d then [(max a c, min b d)] else []
    let rest := if b < d then interRanges r ((c, d) :: s) else interRanges ((a, b) :: r) s
    common ++ rest
  | _, _ => []
termination_by r s => r.length + s.length

def inter (s t : CharSet) : CharSet :=
  ⟨interRanges s.ranges t.ranges⟩

/-- What a list of ranges has and another one has not. -/
def diffRanges : List (Nat × Nat) → List (Nat × Nat) → List (Nat × Nat)
  | (a, b) :: r, (c, d) :: s =>
    if d < a then diffRanges ((a, b) :: r) s
    else if b < c then (a, b) :: diffRanges r ((c, d) :: s)
    else
      let before := if a < c then [(a, previous c)] else []
      before ++ (if d < b then diffRanges ((next d, b) :: r) s else diffRanges r ((c, d) :: s))
  | r, _ => r
termination_by r s => r.length + s.length

def diff (s t : CharSet) : CharSet :=
  ⟨diffRanges s.ranges t.ranges⟩

/-- The characters in exactly one of two sets. -/
def symmDiff (s t : CharSet) : CharSet :=
  diff (union s t) (inter s t)

/-! ## Tables

A table is written in lines of items between spaces. An item is a code point in hexadecimal digits,
or two of them around a dash for a range; `/2` behind a range takes every second code point of it.
-/

/-- The number of hexadecimal digits. -/
def hexNumber (cs : List Char) : Nat :=
  cs.foldl (fun n c => 16 * n + (Hex.value? c).getD 0) 0

/-- Every second code point from `low` on, `count` of them. -/
def everySecond (low count : Nat) : List (Nat × Nat) :=
  (List.range count).map fun i => (low + 2 * i, low + 2 * i)

def itemRanges (item : List Char) : List (Nat × Nat) :=
  let low := hexNumber (item.takeWhile (· ≠ '-'))
  match item.dropWhile (· ≠ '-') with
  | _ :: rest =>
    let high := hexNumber (rest.takeWhile (· ≠ '/'))
    if rest.contains '/' then everySecond low ((high - low) / 2 + 1) else [(low, high)]
  | [] => [(low, low)]

/-- The items of a line, split at spaces. -/
def lineItems (line : String) : List (List Char) :=
  let (item, done) := line.toList.foldl
    (fun (item, done) c => if c = ' ' then ([], item.reverse :: done) else (c :: item, done))
    (([] : List Char), ([] : List (List Char)))
  (item.reverse :: done).reverse

def items (lines : List String) : List (List Char) :=
  lines.flatMap lineItems

/-- The set that the lines of a table list, in increasing order. -/
def ofTable (lines : List String) : CharSet :=
  ⟨merge ((items lines).flatMap itemRanges)⟩

/-! ## Search -/

/-- Finds the range for a code point among ranges in increasing order, by halving. Each step leaves
less than what `bound` counts. -/
def search (ranges : Array (Nat × Nat)) (n : Nat) : Nat → Nat → Nat → Bool
  | 0, _, _ => false
  | bound + 1, low, high =>
    if low < high then
      let middle := (low + high) / 2
      match ranges[middle]? with
      | some (a, b) =>
        if n < a then search ranges n bound low middle
        else if b < n then search ranges n bound (middle + 1) high
        else true
      | none => false
    else false

/-- Whether a code point lies in one of some ranges in increasing order. -/
def inRanges (ranges : Array (Nat × Nat)) (n : Nat) : Bool :=
  search ranges n (ranges.size + 1) 0 ranges.size

end CharSet

end Predefined
