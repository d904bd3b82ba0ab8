-- The room that a pattern may need. It is measured on automata that read the bytes of a text: each
-- state takes room, and so does each reference to another state. A pattern that needs more than the
-- limit is refused as soon as the limit is passed.
namespace Predefined.Pattern

/-- What is taken so far: a number of states, and the bytes for what they refer to. States are
numbered in the order in which they are added. -/
structure Room where
  states : Nat
  references : Nat

namespace Room

/-- The room that a pattern may need, in bytes. -/
def limit : Nat := 10 * 1024 * 1024

/-- The room for a state itself. -/
def stateSize : Nat := 32

/-- The room for the number of another state. -/
def referenceSize : Nat := 4

/-- The room for a range of bytes with the state that it leads to. -/
def edgeSize : Nat := 8

def empty : Room := ⟨0, 0⟩

def total (r : Room) : Nat :=
  stateSize * r.states + r.references

/-- Adds states and what they refer to. -/
def add (states references : Nat) (r : Room) : Option Room :=
  let r : Room := ⟨r.states + states, r.references + references⟩
  if r.total ≤ limit then some r else none

/-- Adds states that refer to one state at most. -/
def plain (states : Nat) (r : Room) : Option Room := r.add states 0

/-- Adds a state that goes on in a number of ways. -/
def fork (ways : Nat) (r : Room) : Option Room := r.add 1 (referenceSize * ways)

/-- Adds a way to a state that has been added before. -/
def refer (r : Room) : Option Room := r.add 0 referenceSize

/-- Adds a state that reads a byte in one of several ranges. -/
def reader (ranges : Nat) (r : Room) : Option Room := r.add 1 (edgeSize * ranges)

/-- Adds something a number of times. -/
def times (what : Room → Option Room) : (count : Nat) → Room → Option Room
  | 0, r => some r
  | count + 1, r =>
    match what r with
    | some r => times what count r
    | none => none

end Room

end Predefined.Pattern
