-- The text of JSON documents, compact and indented. Strings escape the quotation mark, the
-- backslash and the control characters; everything else stands for itself.
import Predefined.Hex
import Predefined.Json.Tree

namespace Predefined.Json

/-- How a character is written inside a string. -/
def escape (c : Char) : List Char :=
  if c = '"' then ['\\', '"']
  else if c = '\\' then ['\\', '\\']
  else if c = '\x08' then ['\\', 'b']
  else if c = '\x0c' then ['\\', 'f']
  else if c = '\n' then ['\\', 'n']
  else if c = '\r' then ['\\', 'r']
  else if c = '\t' then ['\\', 't']
  else if c.toNat < 0x20 then
    ['\\', 'u', '0', '0', Hex.lowerDigit (c.toNat / 16), Hex.lowerDigit (c.toNat % 16)]
  else [c]

/-- A string in quotation marks. One that stands for no text is written as half of a surrogate
pair. -/
def Quoted.chars : Quoted → List Char
  | some s => '"' :: s.toList.flatMap escape ++ ['"']
  | none => '"' :: '\\' :: 'u' :: 'd' :: '8' :: '0' :: '0' :: ['"']

def Numeral.chars (n : Numeral) : List Char :=
  (if n.negative then ['-'] else []) ++ Decimal.chars n.whole
    ++ (if n.fraction.isEmpty then [] else '.' :: Decimal.chars n.fraction)
    ++ match n.exponent with
      | none => []
      | some (negative, ds) => 'e' :: (if negative then '-' else '+') :: Decimal.chars ds

namespace Tree

/-! ## Compact text -/

mutual

/-- The text without any blanks. -/
def compactChars : Tree → List Char
  | null => ['n', 'u', 'l', 'l']
  | bool true => ['t', 'r', 'u', 'e']
  | bool false => ['f', 'a', 'l', 's', 'e']
  | number n => n.chars
  | string q => Quoted.chars q
  | array [] => ['[', ']']
  | array (t :: ts) => '[' :: compactChars t ++ compactElements ts
  | object [] => ['{', '}']
  | object ((key, t) :: ms) => '{' :: Quoted.chars key ++ ':' :: compactChars t ++ compactMembers ms

/-- The elements after the first one, and the closing bracket. -/
def compactElements : List Tree → List Char
  | [] => [']']
  | t :: ts => ',' :: compactChars t ++ compactElements ts

/-- The members after the first one, and the closing brace. -/
def compactMembers : List (Quoted × Tree) → List Char
  | [] => ['}']
  | (key, t) :: ms => ',' :: Quoted.chars key ++ ':' :: compactChars t ++ compactMembers ms

end

def compact (t : Tree) : String :=
  String.ofList (compactChars t)

/-! ## Indented text -/

/-- A line break and the indentation of the given depth, two blanks a level. -/
def newLine (depth : Nat) : List Char :=
  '\n' :: List.replicate (2 * depth) ' '

mutual

/-- The text with each element and member on a line of its own. Empty arrays and objects stay on
one line. -/
def prettyChars (depth : Nat) : Tree → List Char
  | null => ['n', 'u', 'l', 'l']
  | bool true => ['t', 'r', 'u', 'e']
  | bool false => ['f', 'a', 'l', 's', 'e']
  | number n => n.chars
  | string q => Quoted.chars q
  | array [] => ['[', ']']
  | array (t :: ts) =>
    '[' :: newLine (depth + 1) ++ prettyChars (depth + 1) t ++ prettyElements depth ts
  | object [] => ['{', '}']
  | object ((key, t) :: ms) =>
    '{' :: newLine (depth + 1) ++ Quoted.chars key ++ ':' :: ' ' :: prettyChars (depth + 1) t
      ++ prettyMembers depth ms

def prettyElements (depth : Nat) : List Tree → List Char
  | [] => newLine depth ++ [']']
  | t :: ts => ',' :: newLine (depth + 1) ++ prettyChars (depth + 1) t ++ prettyElements depth ts

def prettyMembers (depth : Nat) : List (Quoted × Tree) → List Char
  | [] => newLine depth ++ ['}']
  | (key, t) :: ms =>
    ',' :: newLine (depth + 1) ++ Quoted.chars key ++ ':' :: ' ' :: prettyChars (depth + 1) t
      ++ prettyMembers depth ms

end

def pretty (t : Tree) : String :=
  String.ofList (prettyChars 0 t)

end Tree

end Predefined.Json
