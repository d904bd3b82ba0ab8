-- The flags of a pattern. A pattern sets them from a place on, or for one group.
import Predefined.Pattern.Fault

namespace Predefined.Pattern

inductive Flag where
  | ignoreCase
  | multiLine
  /-- A dot matches a line break too. -/
  | dotAll
  /-- Repetitions are lazy, and those that ask to be lazy are not. -/
  | swapGreed
  | unicode
  /-- A carriage return ends a line too, alone or with a line feed behind it. -/
  | carriageReturn
  /-- Blanks and comments in the pattern mean nothing. -/
  | ignoreBlanks
deriving DecidableEq

def Flag.ofLetter? : Char → Option Flag
  | 'i' => some ignoreCase
  | 'm' => some multiLine
  | 's' => some dotAll
  | 'U' => some swapGreed
  | 'u' => some unicode
  | 'R' => some carriageReturn
  | 'x' => some ignoreBlanks
  | _ => none

/-- The flags that are on. -/
structure Flags where
  on : List Flag

namespace Flags

/-- The flags that a pattern starts with. -/
def initial : Flags := ⟨[.unicode]⟩

def has (fs : Flags) (f : Flag) : Bool := fs.on.contains f

def set (fs : Flags) (f : Flag) (value : Bool) : Flags :=
  let others := fs.on.filter (· ≠ f)
  ⟨if value then f :: others else others⟩

end Flags

/-- Flags to put on or off, each at most once. -/
abbrev FlagChange := List (Flag × Bool)

def Flags.change (fs : Flags) (change : FlagChange) : Flags :=
  change.foldl (fun fs (f, value) => fs.set f value) fs

/-- The new value of a flag, if the change is about it. -/
def FlagChange.value? (change : FlagChange) (f : Flag) : Option Bool :=
  (change.find? (·.1 = f)).map (·.2)

/-- Reads flags up to a colon or a closing parenthesis. The flags after the only dash are put off,
and at least one follows it. -/
def FlagChange.read (change : FlagChange) (value afterDash : Bool) :
    List Char → Except Fault (FlagChange × List Char)
  | [] => .error .openGroup
  | c :: rest =>
    if c = ':' || c = ')' then
      if afterDash then .error .flags else .ok (change.reverse, c :: rest)
    else if c = '-' then
      if value then read change false true rest else .error .flags
    else
      match Flag.ofLetter? c with
      | some f =>
        if change.any (·.1 = f) then .error .flags else read ((f, value) :: change) value false rest
      | none => .error .flags

end Predefined.Pattern
