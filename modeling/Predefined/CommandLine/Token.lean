-- The items of a command line: options, which start with a dash, and operands. Short options may
-- share one dash, values may stand behind an option or be attached to it, and everything after a
-- double dash is an operand.
namespace Predefined.CommandLine

/-- An option that a command knows. -/
structure Flag where
  long : String
  short : Option Char
  takesValue : Bool
  /-- Whether it may be given more than once. -/
  repeats : Bool
  /-- Whether nothing after it is looked at. -/
  ends : Bool
deriving DecidableEq

inductive Token where
  | flag (long : String)
  | option (long value : String)
  | operand (text : String)
deriving DecidableEq

namespace Token

/-- The long name of an option. -/
def long? : Token → Option String
  | flag long | option long _ => some long
  | operand _ => none

def operand? : Token → Option String
  | operand text => some text
  | _ => none

end Token

/-! ## The form of an argument -/

inductive Form where
  | doubleDash
  /-- A long option, with the value after its equals sign. -/
  | long (name : String) (value : Option String)
  /-- Short options that share a dash. -/
  | short (letters : List Char)
  /-- Anything else; a dash alone is a plain argument too. -/
  | plain

def Form.of (argument : String) : Form :=
  match argument.toList with
  | ['-', '-'] => doubleDash
  | '-' :: '-' :: rest =>
    let value := match rest.dropWhile (· ≠ '=') with
      | _ :: v => some (String.ofList v)
      | [] => none
    long (String.ofList (rest.takeWhile (· ≠ '='))) value
  | '-' :: c :: rest => short (c :: rest)
  | _ => plain

/-! ## Reading -/

/-- Tokens so far, and the option whose value is the next argument. -/
abbrev Partway := List Token × Option String

/-- The options of letters that share a dash. An option that takes a value takes the rest of the
letters, less an equals sign, or the next argument when nothing is left. -/
def letterTokens (flags : List Flag) : List Char → Option Partway
  | [] => some ([], none)
  | c :: rest =>
    (flags.find? (·.short = some c)).bind fun f =>
      if f.takesValue then
        match rest with
        | [] => some ([], some f.long)
        | '=' :: v => some ([.option f.long (String.ofList v)], none)
        | v => some ([.option f.long (String.ofList v)], none)
      else if f.ends then some ([.flag f.long], none)
      else (letterTokens flags rest).map fun (ts, next) => (.flag f.long :: ts, next)

/-- The token of a long option. A value must fit the option. -/
def longTokens (flags : List Flag) (name : String) (value : Option String) : Option Partway :=
  (flags.find? (·.long = name)).bind fun f =>
    match f.takesValue, value with
    | true, some v => some ([.option f.long v], none)
    | true, none => some ([], some f.long)
    | false, none => some ([.flag f.long], none)
    | false, some _ => none

/-- Whether nothing after these tokens is looked at. -/
def isOver (flags : List Flag) (ts : List Token) : Bool :=
  ts.any fun t => flags.any fun f => f.ends && t == .flag f.long

/-- The tokens of arguments, none when an argument is refused. `waiting` is an option whose value
comes next; only a plain argument can be one. -/
def tokens (flags : List Flag) (waiting : Option String) : List String → Option (List Token)
  | [] => if waiting.isNone then some [] else none
  | argument :: rest =>
    let after (found : Option Partway) : Option (List Token) :=
      found.bind fun (ts, next) =>
        if isOver flags ts then some ts else (tokens flags next rest).map (ts ++ ·)
    match Form.of argument, waiting with
    | .plain, some long => (tokens flags none rest).map (.option long argument :: ·)
    | .plain, none => (tokens flags none rest).map (.operand argument :: ·)
    | _, some _ => none
    | .doubleDash, none => some (rest.map .operand)
    | .long name value, none => after (longTokens flags name value)
    | .short letters, none => after (letterTokens flags letters)

/-- Whether no option is given more often than it may be. -/
def noneRepeated (flags : List Flag) (ts : List Token) : Bool :=
  flags.all fun f => f.repeats || (ts.filterMap Token.long?).count f.long ≤ 1

/-- The value of an option, when it is given. -/
def valueOf? (long : String) (ts : List Token) : Option String :=
  ts.findSome? fun t => match t with
    | .option l v => if l = long then some v else none
    | _ => none

end Predefined.CommandLine
