-- The structure of a pattern: alternatives of sequences of repeated items, in groups.
import Predefined.Pattern.Token

namespace Predefined.Pattern

inductive Tree where
  | empty
  | atom (a : Atom)
  | bracketed (c : Class)
  | flags (change : FlagChange)
  /-- A group, with its number if it has one. -/
  | group (number : Option Nat) (change : FlagChange) (t : Tree)
  | repetition (r : Count) (t : Tree)
  | sequence (first rest : Tree)
  | alternatives (first rest : Tree)

namespace Tree

def ofItems : List Tree → Tree
  | [] => empty
  | [t] => t
  | t :: rest => sequence t (ofItems rest)

def ofBranches : List Tree → Tree
  | [] => empty
  | [t] => t
  | t :: rest => alternatives t (ofBranches rest)

/-! ## From tokens -/

/-- A group that is read: its items and its finished alternatives, last ones first. -/
structure Level where
  number : Option Nat
  change : FlagChange
  items : List Tree
  branches : List Tree

namespace Level

def start (number : Option Nat) (change : FlagChange) : Level := ⟨number, change, [], []⟩

def add (l : Level) (t : Tree) : Level := { l with items := t :: l.items }

/-- Ends an alternative. -/
def bar (l : Level) : Level :=
  { l with items := [], branches := ofItems l.items.reverse :: l.branches }

def tree (l : Level) : Tree :=
  ofBranches l.bar.branches.reverse

end Level

/-- The group that is read, those around it from the inner one out, and how many groups have got a
number. -/
structure Assembly where
  level : Level
  outer : List Level
  numbered : Nat

def Assembly.step (s : Assembly) : Token → Except Fault Assembly
  | .atom a => .ok { s with level := s.level.add (atom a) }
  | .bracketed c => .ok { s with level := s.level.add (bracketed c) }
  | .flags change => .ok { s with level := s.level.add (flags change) }
  | .bar => .ok { s with level := s.level.bar }
  | .repetition r =>
    match s.level.items with
    | [] | flags _ :: _ => .error .missingOperand
    | t :: items => .ok { s with level := { s.level with items := repetition r t :: items } }
  | .openGroup true change =>
    let number := s.numbered + 1
    .ok ⟨Level.start (some number) change, s.level :: s.outer, number⟩
  | .openGroup false change =>
    .ok { s with level := Level.start none change, outer := s.level :: s.outer }
  | .closeGroup =>
    match s.outer with
    | [] => .error .strayParenthesis
    | l :: outer =>
      let t := group s.level.number s.level.change s.level.tree
      .ok { s with level := l.add t, outer }

def ofTokens (ts : List Token) : Except Fault Tree := do
  let s ← ts.foldlM Assembly.step ⟨Level.start none [], [], 0⟩
  if s.outer.isEmpty then return s.level.tree else .error .openGroup

/-! ## Depth -/

/-- What a part of a pattern stands in. -/
inductive Parent where
  | sequence
  | alternatives
  | other
deriving DecidableEq

/-- How deep groups, repetitions, classes, sequences and alternatives nest. The items of one
sequence are equally deep, and so are alternatives. -/
def depth (parent : Parent) : Tree → Nat
  | empty | atom _ | flags _ => 0
  | bracketed c => c.depth false
  | group _ _ t | repetition _ t => t.depth .other + 1
  | sequence t rest =>
    max (t.depth .other) (rest.depth .sequence) + (if parent = .sequence then 0 else 1)
  | alternatives t rest =>
    max (t.depth .other) (rest.depth .alternatives) + (if parent = .alternatives then 0 else 1)

/-- How deep a pattern may nest. -/
def depthLimit : Nat := 250

/-- The tree of a pattern that does not nest too deeply. -/
def ofPattern (cs : List Char) : Except Fault Tree := do
  let t ← ofTokens (← Token.ofPattern cs)
  if t.depth .other ≤ depthLimit then return t else .error .tooDeep

end Tree

end Predefined.Pattern
