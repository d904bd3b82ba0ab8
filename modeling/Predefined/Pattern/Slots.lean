-- A memory with a fixed number of slots. What is kept has one slot that it may be in, by a hash of
-- it, and takes the place of what was there. So nothing is ever searched for, and what is rarely
-- asked for is forgotten.
import Std.Data.HashMap

namespace Predefined.Pattern

/-- The number of slots, and what stands in those that are taken, each with its value. -/
structure Slots (κ : Type) where
  count : Nat
  taken : Std.HashMap Nat (κ × Nat)

namespace Slots

def empty {κ : Type} (count : Nat) : Slots κ := ⟨count, ∅⟩

/-- The hash of a list of numbers, in 64 bits: each number is mixed in and the sum is multiplied by
a prime. -/
def hash (ns : List Nat) : UInt64 :=
  ns.foldl (fun h n => (h ^^^ UInt64.ofNat n) * 1099511628211) 14695981039346656037

/-- The slot of something by the numbers that make it up. -/
def slot {κ : Type} (s : Slots κ) (ns : List Nat) : Nat :=
  (hash ns).toNat % s.count

/-- The value of something that is kept in a slot. -/
def get? {κ : Type} [DecidableEq κ] (s : Slots κ) (slot : Nat) (key : κ) : Option Nat :=
  match s.taken[slot]? with
  | some (k, value) => if k = key then some value else none
  | none => none

def set {κ : Type} (s : Slots κ) (slot : Nat) (key : κ) (value : Nat) : Slots κ :=
  { s with taken := s.taken.insert slot (key, value) }

end Slots

end Predefined.Pattern
