-- Reading JSON text. The grammar is the strict one: blanks are the space, the tab and the two line
-- breaks, there are no comments and no trailing commas, control characters inside strings are
-- refused, and nothing but blanks follows the document. How deep a document may nest, and how large
-- its numbers may be, is left to those who give the tree a meaning.
import Predefined.Hex
import Predefined.Json.Tree

namespace Predefined.Json

def isBlank (c : Char) : Bool :=
  c = ' ' || c = '\t' || c = '\n' || c = '\r'

def skipBlanks (s : List Char) : List Char :=
  s.dropWhile isBlank

/-! ## Strings -/

/-- A piece of a string: a character, or the code unit of a numeric escape. -/
inductive Piece where
  | char (c : Char)
  | unit (n : Nat)

def unit? (a b c d : Char) : Option Nat := do
  let a ← Hex.value? a
  let b ← Hex.value? b
  let c ← Hex.value? c
  let d ← Hex.value? d
  pure (((a * 16 + b) * 16 + c) * 16 + d)

/-- The character of a one-letter escape. -/
def unescape? (c : Char) : Option Char :=
  if c = '"' ∨ c = '\\' ∨ c = '/' then some c
  else if c = 'b' then some '\x08'
  else if c = 'f' then some '\x0c'
  else if c = 'n' then some '\n'
  else if c = 'r' then some '\r'
  else if c = 't' then some '\t'
  else none

/-- The pieces of a string up to its closing quotation mark, and the text after it. -/
def pieces : List Char → Option (List Piece × List Char)
  | [] => none
  | '"' :: rest => some ([], rest)
  | '\\' :: 'u' :: a :: b :: c :: d :: rest => do
    let n ← unit? a b c d
    let (ps, tail) ← pieces rest
    pure (.unit n :: ps, tail)
  | '\\' :: e :: rest => do
    let c ← unescape? e
    let (ps, tail) ← pieces rest
    pure (.char c :: ps, tail)
  | c :: rest =>
    if c = '\\' ∨ c.toNat < 0x20 then none
    else do
      let (ps, tail) ← pieces rest
      pure (.char c :: ps, tail)

def isHighSurrogate (n : Nat) : Bool := 0xD800 ≤ n && n < 0xDC00

def isLowSurrogate (n : Nat) : Bool := 0xDC00 ≤ n && n < 0xE000

/-- Joins surrogate pairs. There is no text when one half of a pair stands alone. -/
def join : List Piece → Option (List Char)
  | [] => some []
  | .char c :: ps => (join ps).map (c :: ·)
  | .unit n :: ps =>
    if isHighSurrogate n then
      match ps with
      | .unit m :: rest =>
        if isLowSurrogate m then
          (join rest).map (Char.ofNat (0x10000 + (n - 0xD800) * 0x400 + (m - 0xDC00)) :: ·)
        else none
      | _ => none
    else if isLowSurrogate n then none
    else (join ps).map (Char.ofNat n :: ·)

/-- The string after its opening quotation mark. -/
def readQuoted (s : List Char) : Option (Quoted × List Char) :=
  (pieces s).map fun (ps, rest) => ((join ps).map String.ofList, rest)

/-! ## Numbers -/

/-- The whole part: a lone zero, or digits that do not start with zero. -/
def readWhole (s : List Char) : Option (List Digit × List Char) :=
  match Decimal.scan s with
  | ([], _) => none
  | ([d], rest) => some ([d], rest)
  | (d :: ds, rest) => if d = Digit.zero then none else some (d :: ds, rest)

/-- The fraction, empty when no point follows; a point without digits is refused. -/
def readFraction : List Char → Option (List Digit × List Char)
  | '.' :: s =>
    match Decimal.scan s with
    | ([], _) => none
    | found => some found
  | s => some ([], s)

/-- The exponent after its letter. -/
def readExponentDigits (s : List Char) : Option ((Bool × List Digit) × List Char) :=
  let (negative, body) := match s with
    | '-' :: r => (true, r)
    | '+' :: r => (false, r)
    | r => (false, r)
  match Decimal.scan body with
  | ([], _) => none
  | (ds, rest) => some ((negative, ds), rest)

def readExponent : List Char → Option (Option (Bool × List Digit) × List Char)
  | 'e' :: s => (readExponentDigits s).map fun (e, rest) => (some e, rest)
  | 'E' :: s => (readExponentDigits s).map fun (e, rest) => (some e, rest)
  | s => some (none, s)

/-- A number without its sign. -/
def readNumeral (negative : Bool) (s : List Char) : Option (Numeral × List Char) := do
  let (whole, s) ← readWhole s
  let (fraction, s) ← readFraction s
  let (exponent, s) ← readExponent s
  pure ({ negative, whole, fraction, exponent }, s)

/-! ## Documents -/

namespace Tree

mutual

/-- The value at the front of a text, and the text after it. Each value takes at least one
character, so a bound above the length of the text is never reached. -/
def read : Nat → List Char → Option (Tree × List Char)
  | 0, _ => none
  | bound + 1, s =>
    match skipBlanks s with
    | 'n' :: 'u' :: 'l' :: 'l' :: rest => some (null, rest)
    | 't' :: 'r' :: 'u' :: 'e' :: rest => some (bool true, rest)
    | 'f' :: 'a' :: 'l' :: 's' :: 'e' :: rest => some (bool false, rest)
    | '"' :: rest => (readQuoted rest).map fun (q, rest) => (string q, rest)
    | '[' :: rest =>
      match skipBlanks rest with
      | ']' :: rest => some (array [], rest)
      | rest => (readElements bound rest).map fun (ts, rest) => (array ts, rest)
    | '{' :: rest =>
      match skipBlanks rest with
      | '}' :: rest => some (object [], rest)
      | rest => (readMembers bound rest).map fun (ms, rest) => (object ms, rest)
    | '-' :: rest => (readNumeral true rest).map fun (n, rest) => (number n, rest)
    | rest => (readNumeral false rest).map fun (n, rest) => (number n, rest)

/-- One or more elements and the closing bracket. -/
def readElements : Nat → List Char → Option (List Tree × List Char)
  | 0, _ => none
  | bound + 1, s => do
    let (t, rest) ← read bound s
    match skipBlanks rest with
    | ']' :: rest => pure ([t], rest)
    | ',' :: rest =>
      let (ts, rest) ← readElements bound rest
      pure (t :: ts, rest)
    | _ => none

/-- One or more members and the closing brace. -/
def readMembers : Nat → List Char → Option (List (Quoted × Tree) × List Char)
  | 0, _ => none
  | bound + 1, s =>
    match skipBlanks s with
    | '"' :: rest => do
      let (key, rest) ← readQuoted rest
      match skipBlanks rest with
      | ':' :: rest =>
        let (t, rest) ← read bound rest
        match skipBlanks rest with
        | '}' :: rest => pure ([(key, t)], rest)
        | ',' :: rest =>
          let (ms, rest) ← readMembers bound rest
          pure ((key, t) :: ms, rest)
        | _ => none
      | _ => none
    | _ => none

end

/-- Reads a whole document. -/
def parse? (s : String) : Option Tree :=
  let cs := s.toList
  match read (cs.length + 1) cs with
  | some (t, rest) => if (skipBlanks rest).isEmpty then some t else none
  | none => none

end Tree

end Predefined.Json
