-- JSON documents as written, before any meaning is given to them: numbers keep their digits, and
-- objects keep the order and the repetitions of their members. Both directions of text, reading and
-- printing, pass through this form, and each kind of document decides for itself what a tree means.
import Predefined.Decimal

namespace Predefined.Json

/-- A number as written. An integer has neither a fraction nor an exponent. -/
structure Numeral where
  negative : Bool
  whole : List Digit
  fraction : List Digit
  /-- The sign, true for a negative exponent, and the digits. -/
  exponent : Option (Bool × List Digit)
deriving DecidableEq

/-- The content of a string. There is none when an escape names half of a surrogate pair: such a
string is well formed, but stands for no text. -/
abbrev Quoted := Option String

inductive Tree where
  | null
  | bool (b : Bool)
  | number (n : Numeral)
  | string (content : Quoted)
  | array (elements : List Tree)
  | object (members : List (Quoted × Tree))

namespace Tree

/-- A string with the given text. -/
def text (s : String) : Tree :=
  string (some s)

/-- An object with the given members, in order. -/
def record (fields : List (String × Tree)) : Tree :=
  object (fields.map fun (name, t) => (some name, t))

end Tree

end Predefined.Json
