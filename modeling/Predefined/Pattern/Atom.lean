-- The parts of a pattern that stand for one character or one place, and the escapes for them.
import Predefined.Hex
import Predefined.Pattern.Blank
import Predefined.Pattern.Class
import Predefined.Pattern.Fault

namespace Predefined.Pattern

/-- Where a place lies among words. -/
inductive WordEdge where
  | edge
  | noEdge
  | wordStart
  | wordEnd
  /-- No word ends or goes on before the place. -/
  | halfStart
  /-- No word goes on or starts after the place. -/
  | halfEnd
deriving DecidableEq

inductive Place where
  | textStart
  | textEnd
  | lineStart
  | lineEnd
  | word (e : WordEdge)
deriving DecidableEq

inductive Atom where
  | char (c : Char)
  /-- A character by the two digits of its code. -/
  | code (c : Char)
  | dot
  | letter (c : LetterClass) (negated : Bool)
  | property (q : PropertyQuery) (negated : Bool)
  | place (p : Place)
deriving DecidableEq

namespace Atom

/-! ## Characters by their code points -/

def isHexDigit (c : Char) : Bool :=
  (Hex.value? c).isSome

/-- The character that digits name. -/
def charOfDigits? (digits : List Char) : Option Char :=
  let n := digits.foldl (fun n c => 16 * n + (Hex.value? c).getD 0) 0
  if h : n.isValidChar then some (Char.ofNatAux n h) else none

/-- Reads the code point of an escape that has `count` digits, or any number of them between
braces. -/
def readCode (ignoreBlanks : Bool) (count : Nat) (cs : List Char) :
    Except Fault (Char × List Char) :=
  match skip ignoreBlanks cs with
  | '{' :: rest =>
    match takeAll ignoreBlanks isHexDigit (skip ignoreBlanks rest) with
    | ([], _) => .error .codePoint
    | (digits, '}' :: rest) =>
      match charOfDigits? digits with
      | some c => .ok (c, skip ignoreBlanks rest)
      | none => .error .codePoint
    | _ => .error .codePoint
  | rest =>
    let (digits, rest) := take ignoreBlanks isHexDigit count rest
    if digits.length = count then
      match charOfDigits? digits with
      | some c => .ok (c, rest)
      | none => .error .codePoint
    else .error .codePoint

/-! ## Properties -/

/-- Cuts a text at the first place where a mark stands. -/
def cutAt? (mark : List Char) : List Char → Option (List Char × List Char)
  | [] => none
  | c :: rest =>
    if mark.isPrefixOf (c :: rest) then some ([], (c :: rest).drop mark.length)
    else (cutAt? mark rest).map fun (before, after) => (c :: before, after)

/-- The query between braces, and whether it asks for all other characters. -/
def queryOf (cs : List Char) : PropertyQuery × Bool :=
  match cutAt? ['!', '='] cs with
  | some (key, value) => (.value (String.ofList key) (String.ofList value), true)
  | none =>
    match (cutAt? [':'] cs).or (cutAt? ['='] cs) with
    | some (key, value) => (.value (String.ofList key) (String.ofList value), false)
    | none => (.name (String.ofList cs), false)

/-- Reads a property: a letter, or anything between braces. -/
def readProperty (ignoreBlanks negated : Bool) (cs : List Char) :
    Except Fault (Atom × List Char) :=
  match skip ignoreBlanks cs with
  | '{' :: rest =>
    match takeAll ignoreBlanks (· ≠ '}') (skip ignoreBlanks rest) with
    | (query, _ :: rest) =>
      let (q, differs) := queryOf query
      .ok (property q (negated != differs), rest)
    | (_, []) => .error .escape
  | '\\' :: _ => .error .escape
  | c :: rest => .ok (property (.name (String.singleton c)) negated, skip ignoreBlanks rest)
  | [] => .error .escape

/-! ## Word edges -/

def edgeOfName? : List Char → Option WordEdge
  | ['s', 't', 'a', 'r', 't'] => some .wordStart
  | ['e', 'n', 'd'] => some .wordEnd
  | ['s', 't', 'a', 'r', 't', '-', 'h', 'a', 'l', 'f'] => some .halfStart
  | ['e', 'n', 'd', '-', 'h', 'a', 'l', 'f'] => some .halfEnd
  | _ => none

/-- Reads what follows `\b`. Braces around anything but a name are left for a count of repetitions.
-/
def readEdge (ignoreBlanks : Bool) (cs : List Char) : Except Fault (WordEdge × List Char) :=
  match cs with
  | '{' :: rest =>
    match takeAll ignoreBlanks (fun c => c.isAlpha || c = '-') (skip ignoreBlanks rest) with
    | (_, []) => .error .escape
    | ([], _) => .ok (.edge, cs)
    | (name, c :: rest) =>
      match edgeOfName? name with
      | some e => if c = '}' then .ok (e, rest) else .error .escape
      | none => .error .escape
  | _ => .ok (.edge, cs)

/-! ## Escapes -/

/-- The characters that an escape stands for as they are: all of ASCII that may get no other
meaning. -/
def isPlainEscape (c : Char) : Bool :=
  c.toNat < 128 && !c.isAlphanum && c ≠ '<' && c ≠ '>'

/-- Reads an escape after its backslash. -/
def readEscape (ignoreBlanks : Bool) : List Char → Except Fault (Atom × List Char)
  | [] => .error .escape
  | c :: rest =>
    match c with
    | 'x' => do
      -- Braces make it a character like any other.
      let (d, after) ← readCode ignoreBlanks 2 rest
      let braced := (skip ignoreBlanks rest).head? = some '{'
      return (if braced then char d else code d, after)
    | 'u' => do
      let (d, rest) ← readCode ignoreBlanks 4 rest
      return (char d, rest)
    | 'U' => do
      let (d, rest) ← readCode ignoreBlanks 8 rest
      return (char d, rest)
    | 'p' => readProperty ignoreBlanks false rest
    | 'P' => readProperty ignoreBlanks true rest
    | 'b' => do
      let (e, rest) ← readEdge ignoreBlanks rest
      return (place (.word e), rest)
    | 'd' => .ok (letter .digit false, rest)
    | 'D' => .ok (letter .digit true, rest)
    | 's' => .ok (letter .space false, rest)
    | 'S' => .ok (letter .space true, rest)
    | 'w' => .ok (letter .word false, rest)
    | 'W' => .ok (letter .word true, rest)
    | 'a' => .ok (char '\x07', rest)
    | 'f' => .ok (char '\x0c', rest)
    | 'n' => .ok (char '\n', rest)
    | 'r' => .ok (char '\r', rest)
    | 't' => .ok (char '\t', rest)
    | 'v' => .ok (char '\x0b', rest)
    | 'A' => .ok (place .textStart, rest)
    | 'z' => .ok (place .textEnd, rest)
    | 'B' => .ok (place (.word .noEdge), rest)
    | '<' => .ok (place (.word .wordStart), rest)
    | '>' => .ok (place (.word .wordEnd), rest)
    | _ => if isPlainEscape c then .ok (char c, rest) else .error .escape

end Atom

end Predefined.Pattern
