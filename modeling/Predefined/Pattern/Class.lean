-- Classes of characters, as a pattern writes them: the classes with a letter of their own, the
-- classes with a name, and brackets around members.
namespace Predefined.Pattern

/-- The classes behind `\d`, `\s` and `\w`. -/
inductive LetterClass where
  | digit
  | space
  | word
deriving DecidableEq

/-- The classes of ASCII characters that have a name between colons. -/
inductive NamedClass where
  | alnum
  | alpha
  | ascii
  | blank
  | cntrl
  | digit
  | graph
  | lower
  | print
  | punct
  | space
  | upper
  | word
  | xdigit
deriving DecidableEq

def NamedClass.ofName? : String → Option NamedClass
  | "alnum" => some alnum
  | "alpha" => some alpha
  | "ascii" => some ascii
  | "blank" => some blank
  | "cntrl" => some cntrl
  | "digit" => some digit
  | "graph" => some graph
  | "lower" => some lower
  | "print" => some print
  | "punct" => some punct
  | "space" => some space
  | "upper" => some upper
  | "word" => some word
  | "xdigit" => some xdigit
  | _ => none

/-- What a pattern says about a Unicode property. -/
inductive PropertyQuery where
  /-- A property that a character has or has not, a category or a script. -/
  | name (name : String)
  | value (property value : String)
deriving DecidableEq

inductive SetOperation where
  | intersection
  | difference
  | symmetricDifference
deriving DecidableEq

/-- A class between brackets, or a member of one. -/
inductive Class where
  | empty
  | range (low high : Char)
  | letter (c : LetterClass) (negated : Bool)
  | named (c : NamedClass) (negated : Bool)
  | property (q : PropertyQuery) (negated : Bool)
  | bracketed (negated : Bool) (members : Class)
  | union (first rest : Class)
  | operation (op : SetOperation) (left right : Class)

namespace Class

def ofMembers : List Class → Class
  | [] => empty
  | [c] => c
  | c :: rest => union c (ofMembers rest)

/-- How deep brackets, operations and lists of members nest. The members of one list are equally
deep. -/
def depth (inList : Bool) : Class → Nat
  | empty | range .. | letter .. | named .. | property .. => 0
  | bracketed _ c => c.depth false + 1
  | union c rest => max (c.depth false) (rest.depth true) + (if inList then 0 else 1)
  | operation _ c d => max (c.depth false) (d.depth false) + 1

end Class

end Predefined.Pattern
