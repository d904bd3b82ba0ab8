-- Reading a class between brackets. Members follow each other, a dash between two characters makes
-- a range, brackets nest, and two ampersands, dashes or tildes join what stands on their left and
-- right.
import Predefined.Pattern.Atom

namespace Predefined.Pattern.Class

/-- A member that is a character by itself, or a class. -/
def ofAtom : Atom → Except Fault Class
  | .char c | .code c => .ok (range c c)
  | .letter c negated => .ok (letter c negated)
  | .property q negated => .ok (property q negated)
  | .dot | .place _ => .error .classMember

/-- An end of a range. -/
def endOf : Atom → Except Fault Char
  | .char c | .code c => .ok c
  | _ => .error .classRange

/-- Reads one character or escape. -/
def readAtom (ignoreBlanks : Bool) : List Char → Except Fault (Atom × List Char)
  | [] => .error .openClass
  | '\\' :: rest => Atom.readEscape ignoreBlanks rest
  | c :: rest => .ok (.char c, rest)

/-- Reads a member that is no class in brackets. A dash in front of a bracket or of another dash
does not make a range. -/
def readRange (ignoreBlanks : Bool) (cs : List Char) : Except Fault (Class × List Char) := do
  let (first, rest) ← readAtom ignoreBlanks cs
  match skip ignoreBlanks rest with
  | '-' :: after =>
    let next := peek? ignoreBlanks after
    if next = some ']' || next = some '-' then return (← ofAtom first, '-' :: after)
    let (second, rest) ← readAtom ignoreBlanks (skip ignoreBlanks after)
    let low ← endOf first
    let high ← endOf second
    if low ≤ high then return (range low high, rest) else .error .classRange
  | rest => return (← ofAtom first, rest)

/-- A name between colons, behind an opening bracket. Anything else there opens a class. -/
def readNamed? : List Char → Option (Class × List Char)
  | ':' :: rest =>
    let (negated, rest) := match rest with
      | '^' :: rest => (true, rest)
      | rest => (false, rest)
    match rest.dropWhile (· ≠ ':') with
    | ':' :: ']' :: after =>
      (NamedClass.ofName? (String.ofList (rest.takeWhile (· ≠ ':')))).map fun c =>
        (named c negated, after)
    | _ => none
  | _ => none

/-- Everything between two operators, or an operator and a bracket, joined with what stands before
it. Members come last one first. -/
def close (left : Option (SetOperation × Class)) (members : List Class) : Class :=
  let right := ofMembers members.reverse
  match left with
  | some (op, left) => operation op left right
  | none => right

/-- Reads what stands in front of the members of a class: whether it is negated, and the members
that would mean something else further on. Dashes are such members, and so is a closing bracket when
it is the first one. -/
def readOpening (ignoreBlanks : Bool) (cs : List Char) : Bool × List Class × List Char :=
  let (negated, rest) := match skip ignoreBlanks cs with
    | '^' :: rest => (true, skip ignoreBlanks rest)
    | rest => (false, rest)
  let (dashes, rest) := takeAll ignoreBlanks (· = '-') rest
  match dashes, rest with
  | [], ']' :: rest => (negated, [range ']' ']'], rest)
  | dashes, rest => (negated, dashes.map fun c => range c c, rest)

/-- Reads members up to the closing bracket. The bound is a text that is at least as long as what is
left, so that it never ends first. -/
def readMembers (ignoreBlanks : Bool) (left : Option (SetOperation × Class))
    (members : List Class) : (bound cs : List Char) → Except Fault (Class × List Char)
  | [], _ => .error .openClass
  | _ :: bound, cs =>
    match skip ignoreBlanks cs with
    | [] => .error .openClass
    | '[' :: rest =>
      match readNamed? rest with
      | some (c, rest) => readMembers ignoreBlanks left (c :: members) bound rest
      | none => do
        let (negated, first, rest) := readOpening ignoreBlanks rest
        let (c, rest) ← readMembers ignoreBlanks none first bound rest
        readMembers ignoreBlanks left (bracketed negated c :: members) bound rest
    | ']' :: rest => .ok (close left members, rest)
    | '&' :: '&' :: rest =>
      readMembers ignoreBlanks (some (.intersection, close left members)) [] bound rest
    | '-' :: '-' :: rest =>
      readMembers ignoreBlanks (some (.difference, close left members)) [] bound rest
    | '~' :: '~' :: rest =>
      readMembers ignoreBlanks (some (.symmetricDifference, close left members)) [] bound rest
    | rest => do
      let (c, rest) ← readRange ignoreBlanks rest
      readMembers ignoreBlanks left (c :: members) bound rest

/-- Reads a class behind its opening bracket. -/
def read (ignoreBlanks : Bool) (cs : List Char) : Except Fault (Class × List Char) := do
  let (negated, first, rest) := readOpening ignoreBlanks cs
  let (c, rest) ← readMembers ignoreBlanks none first rest rest
  return (bracketed negated c, rest)

end Predefined.Pattern.Class
