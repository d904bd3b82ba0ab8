-- How much room a pattern needs. Two automata are measured: one that reads a text forwards and
-- keeps the bounds of groups, and one that reads it backwards. A counted repetition is as many
-- copies of its body.
import Predefined.Pattern.Regular
import Predefined.Pattern.SetRoom
import Predefined.Pattern.TextRoom

namespace Predefined.Pattern

/-- How an automaton reads a text. -/
inductive Direction where
  | forward
  | backward
deriving DecidableEq

namespace Direction

/-- The bytes of a text in the order of reading. -/
def bytes (d : Direction) (cs : List Char) : List UInt8 :=
  match d with
  | forward => Utf8.encode cs
  | backward => (Utf8.encode cs).reverse

def set (d : Direction) (s : CharSet) (r : Room) : Option Room :=
  if Flags.isAscii s then SetRoom.ascii s r
  else
    match d with
    | forward => SetRoom.forward s r
    | backward => SetRoom.backward s r

end Direction

/-- Where an expression stands among alternatives. -/
inductive Position where
  /-- In front of all others, or not among alternatives. -/
  | first
  | second
  | later
deriving DecidableEq

/-- What is added behind an alternative: the state to choose and the state behind all alternatives
come with the second one. -/
def Position.close (p : Position) (r : Room) : Option Room :=
  match p with
  | first => some r
  | second => do (← r.fork 2).plain 1
  | later => r.refer

namespace Regular

/-- The texts of a choice between texts. -/
def texts? : Regular → Option (List (List Char))
  | text cs => some [cs]
  | choice (text cs) s => s.texts?.map (cs :: ·)
  | _ => none

/-- What a repetition adds, by what its body adds. One without an end needs another state to choose
when its body may match the empty text. -/
def repetitionRoom (c : Count) (matchesSome : Bool) (body : Room → Option Room) (r : Room) :
    Option Room := do
  match c.max with
  | none =>
    if 0 < c.min then (← r.times body c.min).fork 2
    else if matchesSome then body (← r.fork 2)
    else (← (← (← body r).fork 2).fork 2).plain 1
  | some max =>
    if c.min = 0 && max = 1 then (← body (← r.fork 2)).plain 1
    else
      let r ← if c.min = 0 then r.plain 1 else r.times body c.min
      if c.min = max then return r
      else (← r.plain 1).times (fun r => do body (← r.fork 2)) (max - c.min)

/-- What an expression adds to the room. -/
def room (d : Direction) (p : Position) : Regular → Room → Option Room
  | empty, r | look _, r => do p.close (← r.plain 1)
  | text cs, r => do p.close (← r.plain (Utf8.encode cs).length)
  | oneOf s, r => do p.close (← d.set s r)
  | sequence s t, r => do
    match d with
    | .forward => p.close (← t.room d .first (← s.room d .first r))
    | .backward => p.close (← s.room d .first (← t.room d .first r))
  | group _ s, r => do
    match d with
    | .forward => p.close (← (← s.room d .first (← r.plain 1)).plain 1)
    | .backward => p.close (← s.room d .first r)
  | repetition c s, r => do
    p.close (← repetitionRoom c s.matchesSome (s.room d .first) r)
  | choice s t, r =>
    match p with
    | .first =>
      match (choice s t).texts? with
      | some ts => TextRoom.texts (ts.map d.bytes) r
      | none => do t.room d .second (← s.room d .first r)
    | .second | .later => do t.room d .later (← p.close (← s.room d .first r))

/-! ## Whole patterns -/

/-- Whether a match can only be where a place lies, the expression being read up to its first
character. -/
def startsAt (l : Look) : Regular → Bool
  | empty | text _ | oneOf _ => false
  | look k => k = l
  | sequence r s => r.startsAt l || (r.matchesEmptyOnly && s.startsAt l)
  | choice r s => r.startsAt l && s.startsAt l
  | repetition c r => 0 < c.min && r.startsAt l
  | group _ r => r.startsAt l

/-- Whether no character is in any match, and whether a match can only end where a place lies. -/
def ending (l : Look) : Regular → Bool × Bool
  | empty => (true, false)
  | text cs => (cs.isEmpty, false)
  | oneOf _ => (false, false)
  | look k => (true, k = l)
  | sequence r s =>
    let (emptyFirst, endsFirst) := r.ending l
    let (emptyRest, endsRest) := s.ending l
    (emptyFirst && emptyRest, endsRest || (emptyRest && endsFirst))
  | choice r s =>
    let (emptyFirst, endsFirst) := r.ending l
    let (emptyRest, endsRest) := s.ending l
    (emptyFirst && emptyRest, endsFirst && endsRest)
  | repetition c r =>
    let (isEmpty, ends) := r.ending l
    (c.max = some 0 || isEmpty, 0 < c.min && ends)
  | group _ r => r.ending l

def endsAt (l : Look) (r : Regular) : Bool := (r.ending l).2

/-- What stands before a pattern: states that pass over any bytes, unless there is one place only
where a match can start. -/
def lead (anchored : Bool) (r : Room) : Option Room := do
  if anchored then r.plain 1 else (← (← r.fork 2).plain 1).reader 1

/-- The room for a whole pattern, which is a group itself. -/
def wholeRoom (d : Direction) (r : Regular) : Option Room := do
  match d with
  | .forward =>
    let room ← (← lead (r.startsAt .textStart) .empty).plain 1
    (← r.room d .first room).plain 2
  | .backward => (← r.room d .first (← lead (r.endsAt .textEnd) .empty)).plain 1

/-- From this number of texts on, alternatives that are texts are searched for without automata. -/
def manyTexts : Nat := 3000

/-- Refuses what needs more room than there is. -/
def check (r : Regular) : Except Fault Regular :=
  if r.texts?.any (manyTexts ≤ ·.length) then .ok r
  else if (r.wholeRoom .forward).isSome && (r.wholeRoom .backward).isSome then .ok r
  else .error .tooLarge

end Regular

end Predefined.Pattern
