-- How many arguments a function takes, and what the arguments are called in error texts.
namespace Predefined

/-- A number of arguments that functions exist for. -/
inductive Arity where
  | nullary
  | unary
  | binary
  | ternary
deriving DecidableEq

namespace Arity

def count : Arity → Nat
  | nullary => 0
  | unary => 1
  | binary => 2
  | ternary => 3

/-- No function takes more than three arguments. -/
def ofCount? : Nat → Option Arity
  | 0 => some nullary
  | 1 => some unary
  | 2 => some binary
  | 3 => some ternary
  | _ => none

def text : Arity → String
  | nullary => "no arguments"
  | unary => "one argument"
  | binary => "two arguments"
  | ternary => "three arguments"

end Arity

/-- The place of an argument in a call. -/
inductive Role where
  | source
  | argument1
  | argument2
deriving DecidableEq

namespace Role

/-- The roles in the order of arguments. A fourth argument has none. -/
def all : List Role :=
  [source, argument1, argument2]

def name : Role → String
  | source => "source"
  | argument1 => "argument1"
  | argument2 => "argument2"

end Role

end Predefined
