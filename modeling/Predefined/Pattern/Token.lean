-- The items of a pattern, read from left to right. Whether blanks mean something may change inside
-- a pattern, so the reader keeps track of the groups that it is in.
import Predefined.Decimal
import Predefined.Pattern.Bracket
import Predefined.Pattern.Flag
import Predefined.Unicode.Letter

namespace Predefined.Pattern

/-- How often something is repeated. -/
structure Count where
  min : Nat
  max : Option Nat
  lazy : Bool
deriving DecidableEq

inductive Token where
  | atom (a : Atom)
  | bracketed (c : Class)
  | flags (change : FlagChange)
  /-- A group is numbered unless it is there for its flags, or for nothing but its bounds. -/
  | openGroup (numbered : Bool) (change : FlagChange)
  | closeGroup
  | bar
  | repetition (r : Count)

namespace Token

/-! ## Counts -/

/-- The largest count. -/
def maxCount : Nat := 4294967295

/-- Reads a number with white space around it. -/
def readNumber (ignoreBlanks : Bool) (cs : List Char) : Except Fault (Nat × List Char) :=
  let (digits, rest) := takeAll ignoreBlanks Char.isDigit (cs.dropWhile isBlank)
  let n := digits.foldl (fun n c => 10 * n + (c.toNat - 48)) 0
  if digits.isEmpty || maxCount < n then .error .count else .ok (n, rest.dropWhile isBlank)

/-- A question mark behind a repetition makes it lazy. -/
def readLazy (min : Nat) (max : Option Nat) : List Char → Token × List Char
  | '?' :: rest => (repetition ⟨min, max, true⟩, rest)
  | rest => (repetition ⟨min, max, false⟩, rest)

/-- Reads a count behind its opening brace. -/
def readCount (ignoreBlanks : Bool) (cs : List Char) : Except Fault (Token × List Char) := do
  let (min, rest) ← readNumber ignoreBlanks (skip ignoreBlanks cs)
  match rest with
  | '}' :: rest => return readLazy min (some min) (skip ignoreBlanks rest)
  | ',' :: rest =>
    match skip ignoreBlanks rest with
    | '}' :: rest => return readLazy min none (skip ignoreBlanks rest)
    | rest =>
      let (max, rest) ← readNumber ignoreBlanks rest
      match rest with
      | '}' :: rest =>
        if min ≤ max then return readLazy min (some max) (skip ignoreBlanks rest)
        else .error .count
      | _ => .error .openCount
  | _ => .error .openCount

/-! ## Groups -/

def startsName (c : Char) : Bool :=
  c = '_' || Letter.alphabetic.contains c.toNat

def continuesName (c : Char) : Bool :=
  startsName c || c = '.' || c = '[' || c = ']' || Letter.numeric.contains c.toNat

/-- Reads the name of a group up to its closing angle bracket. -/
def readName (names : List (List Char)) (cs : List Char) :
    Except Fault (List Char × List Char) :=
  match cs.takeWhile (· ≠ '>'), cs.dropWhile (· ≠ '>') with
  | c :: name, _ :: rest =>
    if !startsName c || !name.all continuesName then .error .groupName
    else if names.contains (c :: name) then .error .repeatedGroupName
    else .ok (c :: name, rest)
  | _, _ => .error .groupName

/-- Reads what stands behind an opening parenthesis: a group, or flags for the rest of the group
that they stand in. The names are those of the groups before. -/
def readGroup (names : List (List Char)) (cs : List Char) :
    Except Fault (Token × List (List Char) × List Char) :=
  match cs with
  | '?' :: '=' :: _ | '?' :: '!' :: _ | '?' :: '<' :: '=' :: _ | '?' :: '<' :: '!' :: _ =>
    .error .lookAround
  | '?' :: 'P' :: '<' :: rest | '?' :: '<' :: rest => do
    let (name, rest) ← readName names rest
    return (openGroup true [], name :: names, rest)
  | '?' :: rest => do
    let (change, rest) ← FlagChange.read [] true false rest
    match rest with
    | ':' :: rest => return (openGroup false change, names, rest)
    | rest =>
      if change.isEmpty then .error .missingOperand else return (flags change, names, rest.drop 1)
  | rest => .ok (openGroup true [], names, rest)

/-! ## Patterns -/

/-- What a reader knows: whether blanks mean nothing, the same for each group that is open, from
the inner one out, and the names of groups. -/
structure Reading where
  ignoreBlanks : Bool
  outer : List Bool
  names : List (List Char)

/-- Reads the token at the front of what is left. -/
def read (s : Reading) : List Char → Except Fault (Token × List Char × Reading)
  | [] => .error .escape
  | '(' :: rest => do
    let (t, names, rest) ← readGroup s.names (skip s.ignoreBlanks rest)
    match t with
    | openGroup _ change =>
      let inner := (change.value? .ignoreBlanks).getD s.ignoreBlanks
      return (t, rest, ⟨inner, s.ignoreBlanks :: s.outer, names⟩)
    | flags change =>
      let after := (change.value? .ignoreBlanks).getD s.ignoreBlanks
      return (t, rest, { s with ignoreBlanks := after, names })
    | _ => return (t, rest, s)
  | ')' :: rest =>
    match s.outer with
    | [] => .error .strayParenthesis
    | o :: outer => .ok (closeGroup, rest, { s with ignoreBlanks := o, outer })
  | '|' :: rest => .ok (bar, rest, s)
  | '[' :: rest => do
    let (c, rest) ← Class.read s.ignoreBlanks rest
    return (bracketed c, rest, s)
  | '?' :: rest =>
    let (t, rest) := readLazy 0 (some 1) rest
    .ok (t, rest, s)
  | '*' :: rest =>
    let (t, rest) := readLazy 0 none rest
    .ok (t, rest, s)
  | '+' :: rest =>
    let (t, rest) := readLazy 1 none rest
    .ok (t, rest, s)
  | '{' :: rest => do
    let (t, rest) ← readCount s.ignoreBlanks rest
    return (t, rest, s)
  | '\\' :: rest => do
    let (a, rest) ← Atom.readEscape s.ignoreBlanks rest
    return (atom a, rest, s)
  | '.' :: rest => .ok (atom .dot, rest, s)
  | '^' :: rest => .ok (atom (.place .lineStart), rest, s)
  | '$' :: rest => .ok (atom (.place .lineEnd), rest, s)
  | c :: rest => .ok (atom (.char c), rest, s)

/-- Reads the tokens of what is left. Each takes at least one character, so the bound is never
reached. -/
def readAll (s : Reading) : (bound : Nat) → List Char → Except Fault (List Token)
  | 0, _ => .ok []
  | bound + 1, cs =>
    match skip s.ignoreBlanks cs with
    | [] => if s.outer.isEmpty then .ok [] else .error .openGroup
    | cs => do
      let (t, rest, s) ← read s cs
      let ts ← readAll s bound rest
      return t :: ts

/-- The tokens of a pattern. -/
def ofPattern (cs : List Char) : Except Fault (List Token) :=
  readAll ⟨false, [], []⟩ (cs.length + 1) cs

end Token

end Predefined.Pattern
