-- A regular expression as a program: instructions that read one character, look around, or go on
-- in two ways of which the first is preferred. It is written from its end to its start, so that
-- each part is given the instruction that follows it.
import Predefined.Pattern.Regular

namespace Predefined.Pattern

inductive Instruction where
  /-- Reads a character in one of the ranges. -/
  | read (ranges : Array (Nat × Nat)) (next : Nat)
  | look (l : Look) (next : Nat)
  | choose (first second : Nat)
  | accept

abbrev Code := Array Instruction

structure Program where
  code : Code
  start : Nat

namespace Program

/-- Adds an instruction, and gives its place. -/
def emit (code : Code) (i : Instruction) : Nat × Code :=
  (code.size, code.push i)

/-- Prefers to go on with a body, unless that is lazy. -/
def chooseBody (lazy : Bool) (body next : Nat) : Instruction :=
  if lazy then .choose next body else .choose body next

/-- What writes a part of a program: it is given the instruction that follows and what is written,
and gives the first instruction of the part. -/
abbrev Writer := Nat → Code → Nat × Code

def copies (body : Writer) : (count : Nat) → Writer
  | 0, next, code => (next, code)
  | count + 1, next, code =>
    let (next, code) := body next code
    copies body count next code

/-- Up to `count` copies. Each may be left for the instruction that follows all of them. -/
def options (body : Writer) (lazy : Bool) (leave : Nat) : (count : Nat) → Writer
  | 0, next, code => (next, code)
  | count + 1, next, code =>
    let (start, code) := body next code
    let (next, code) := emit code (chooseBody lazy start leave)
    options body lazy leave count next code

/-- A body with a choice behind it to start again. Gives the choice, the start of the body and the
code. -/
def again (body : Writer) (lazy : Bool) (next : Nat) (code : Code) : Nat × Nat × Code :=
  let (choice, code) := emit code .accept
  let (start, code) := body choice code
  (choice, start, code.setIfInBounds choice (chooseBody lazy start next))

/-- Writes a repetition. A body that may match the empty text is entered from a choice of its own:
the choice to start again has been made by the time that an empty pass comes back to it. -/
def repetition (c : Count) (body : Writer) (matchesSome : Bool) : Writer := fun next code =>
  match c.max with
  | some max =>
    let (start, code) := options body c.lazy next (max - c.min) next code
    copies body c.min start code
  | none =>
    let (choice, start, code) := again body c.lazy next code
    if 0 < c.min then copies body (c.min - 1) start code
    else if matchesSome then (choice, code)
    else emit code (chooseBody c.lazy start next)

/-- Reads the characters of a text. They come last one first. -/
def spell : List Char → Writer
  | [], next, code => (next, code)
  | c :: cs, next, code =>
    let (next, code) := emit code (.read #[(c.toNat, c.toNat)] next)
    spell cs next code

def write : Regular → Writer
  | .empty, next, code => (next, code)
  | .text cs, next, code => spell cs.reverse next code
  | .oneOf s, next, code => emit code (.read s.ranges.toArray next)
  | .look l, next, code => emit code (.look l next)
  | .sequence r s, next, code =>
    let (next, code) := write s next code
    write r next code
  | .choice r s, next, code =>
    let (first, code) := write r next code
    let (second, code) := write s next code
    emit code (.choose first second)
  | .group _ r, next, code => write r next code
  | .repetition c r, next, code => repetition c (write r) r.matchesSome next code

def ofRegular (r : Regular) : Program :=
  let (start, code) := write r 0 #[.accept]
  { code, start }

end Program

end Predefined.Pattern
