-- What a pattern means once its flags are applied: a regular expression over sets of characters
-- and places. Of two alternatives the first one is preferred, and a repetition prefers to go on,
-- or to stop if it is lazy.
--
-- Expressions are kept in a normal form: a sequence has at least two parts, none of them is empty
-- or a sequence, and no two texts are neighbours; no alternative is a choice itself; alternatives
-- that are all characters or all sets are one set; what all alternatives start with stands before
-- them; and a set of one character is a text.
import Predefined.Pattern.Meaning
import Predefined.Pattern.Tree

namespace Predefined.Pattern

/-- What is looked at before and after a place. -/
inductive Look where
  | textStart
  | textEnd
  | lineStart (carriageReturn : Bool)
  | lineEnd (carriageReturn : Bool)
  | word (unicode : Bool) (e : WordEdge)
deriving DecidableEq

inductive Regular where
  | empty
  | text (cs : List Char)
  | oneOf (s : CharSet)
  | look (l : Look)
  | sequence (first rest : Regular)
  | choice (first rest : Regular)
  | repetition (r : Count) (body : Regular)
  /-- A numbered group. It matches what its body matches. -/
  | group (number : Nat) (body : Regular)
deriving DecidableEq

namespace Regular

/-! ## Lengths -/

/-- Whether no character is in any match. -/
def matchesEmptyOnly : Regular → Bool
  | empty | look _ => true
  | text cs => cs.isEmpty
  | oneOf _ => false
  | sequence r s | choice r s => r.matchesEmptyOnly && s.matchesEmptyOnly
  | repetition c r => c.max = some 0 || r.matchesEmptyOnly
  | group _ r => r.matchesEmptyOnly

/-- The least number of characters in a match. It is not known where a set has no characters. -/
def minLength? : Regular → Option Nat
  | empty | look _ => some 0
  | text cs => some cs.length
  | oneOf s => if s.isEmpty then none else some 1
  | sequence r s => return (← r.minLength?) + (← s.minLength?)
  | choice r s => return min (← r.minLength?) (← s.minLength?)
  | repetition c r => return c.min * (← r.minLength?)
  | group _ r => r.minLength?

/-- Whether it is known that every match has a character. -/
def matchesSome (r : Regular) : Bool :=
  r.minLength?.any (0 < ·)

/-! ## Sets -/

/-- One of a set of characters. -/
def ofSet (s : CharSet) : Regular :=
  match s.ranges with
  | [(a, b)] => if a = b then text [Char.ofNat a] else oneOf s
  | _ => oneOf s

/-! ## Sequences -/

/-- A part that is neither empty nor a sequence before the rest of a sequence. -/
def before : Regular → Regular → Regular
  | r, empty => r
  | text a, text b => text (a ++ b)
  | text a, sequence (text b) s => sequence (text (a ++ b)) s
  | r, s => sequence r s

def andThen : Regular → Regular → Regular
  | empty, t => t
  | sequence r s, t => r.before (s.andThen t)
  | r, t => r.before t

/-- The parts of a sequence. -/
def parts : Regular → List Regular
  | sequence r s => r :: s.parts
  | r => [r]

def ofParts (rs : List Regular) : Regular :=
  rs.foldr andThen empty

/-! ## Alternatives -/

def branches : Regular → List Regular
  | choice r s => r :: s.branches
  | r => [r]

def char? : Regular → Option Char
  | text [c] => some c
  | _ => none

def set? : Regular → Option CharSet
  | oneOf s => some s
  | _ => none

/-- Alternatives as they are. Without any, nothing matches. -/
def anyOf : List Regular → Regular
  | [] => oneOf .empty
  | [r] => r
  | r :: rest => choice r (anyOf rest)

/-- Alternatives, with those of choices among them. Characters and sets make one set. -/
def joined (rs : List Regular) : Regular :=
  let rs := rs.flatMap branches
  match rs with
  | [_] => anyOf rs
  | _ =>
    match rs.mapM char?, rs.mapM set? with
    | some cs, _ => ofSet (.ofChars cs)
    | none, some sets => ofSet (.unions sets)
    | none, none => anyOf rs

/-- What two lists of parts start with. -/
def commonPrefix : List Regular → List Regular → List Regular
  | r :: rs, s :: ss => if r = s then r :: commonPrefix rs ss else []
  | _, _ => []

/-- What all of some alternatives start with, if each one is a sequence. -/
def sharedStart (rs : List Regular) : List Regular :=
  let lists := rs.map parts
  match lists with
  | first :: rest => if lists.all (1 < ·.length) then rest.foldl commonPrefix first else []
  | [] => []

/-- Alternatives, the preferred ones first. -/
def alternatives : List Regular → Regular
  | [r] => r
  | rs =>
    let rs := (joined rs).branches
    match sharedStart rs with
    | [] => anyOf rs
    | shared =>
      if rs.length = 1 then anyOf rs
      else
        (ofParts shared).andThen
          (joined (rs.map fun r => ofParts (r.parts.drop shared.length)))

/-! ## Repetitions -/

/-- Something that only matches the empty text is repeated once at most. -/
def repeated (c : Count) (r : Regular) : Regular :=
  let (min, max) :=
    if r.matchesEmptyOnly then (Nat.min c.min 1, some (Nat.min (c.max.getD 1) 1))
    else (c.min, c.max)
  if max = some 0 then empty
  else if min = 1 && max = some 1 then r
  else repetition { c with min, max } r

/-! ## From trees -/

def ofPlace (fs : Flags) : Place → Regular
  | .textStart => look .textStart
  | .textEnd => look .textEnd
  | .lineStart =>
    look (if fs.has .multiLine then .lineStart (fs.has .carriageReturn) else .textStart)
  | .lineEnd =>
    look (if fs.has .multiLine then .lineEnd (fs.has .carriageReturn) else .textEnd)
  | .word e => look (.word (fs.has .unicode) e)

/-- A character by itself. Case is folded for ASCII letters only where Unicode is off. -/
def ofChar (fs : Flags) (c : Char) : Regular :=
  ofSet (if fs.has .unicode || c.toNat < 128 then fs.fold (.single c) else .single c)

def ofAtom (fs : Flags) : Atom → Except Fault Regular
  | .char c => .ok (ofChar fs c)
  | .code c =>
    if fs.has .unicode || c.toNat < 128 then .ok (ofChar fs c) else .error .needsUnicode
  | .dot => ofSet <$> fs.dotSet
  | .letter c negated => ofSet <$> fs.letterSet c negated
  | .property q negated => ofSet <$> fs.propertySet q negated
  | .place p => .ok (ofPlace fs p)

/-- The alternatives of a tree under flags, and the flags that hold behind it. A group keeps its own
changes of flags to itself. -/
def ofTree (fs : Flags) : Tree → Except Fault (List Regular × Flags)
  | .empty => .ok ([empty], fs)
  | .atom a => do return ([← ofAtom fs a], fs)
  | .bracketed c => do return ([ofSet (← c.set fs)], fs)
  | .flags change => .ok ([empty], fs.change change)
  | .group number change t => do
    let (rs, _) ← ofTree (fs.change change) t
    let r := alternatives rs
    return ([number.elim r fun n => group n r], fs)
  | .repetition c t => do
    let (rs, after) ← ofTree fs t
    let c := { c with lazy := c.lazy != fs.has .swapGreed }
    return ([repeated c (alternatives rs)], after)
  | .sequence t rest => do
    let (rs, fs) ← ofTree fs t
    let (ss, fs) ← ofTree fs rest
    return ([(alternatives rs).andThen (alternatives ss)], fs)
  | .alternatives t rest => do
    let (rs, fs) ← ofTree fs t
    let (ss, fs) ← ofTree fs rest
    return (alternatives rs :: ss, fs)

/-- The meaning of a pattern. -/
def ofPattern (cs : List Char) : Except Fault Regular := do
  let (rs, _) ← ofTree Flags.initial (← Tree.ofPattern cs)
  return alternatives rs

end Regular

end Predefined.Pattern
