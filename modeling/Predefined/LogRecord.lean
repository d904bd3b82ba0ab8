-- What the program writes to the log.
import Predefined.Encoding.Charset
import Predefined.EvalError

namespace Predefined

inductive LogLevel where
  | trace
  | debug
  | warn
deriving DecidableEq

inductive LogRecord where
  /-- A call is about to be evaluated. -/
  | call (function : String) (count : Nat)
  /-- The argument of a function that takes one. -/
  | source (function typeName : String)
  /-- A failure that `exists` turns into a value. -/
  | absent (failure : EvalError)
  /-- A character set was found by its name. -/
  | charset (function name : String) (charset : Charset)
  | registryFailure (key : String) (failure : HostError)
  | xpathFailure (failure : HostError)
  /-- The vault answered an alias with its mark of an unknown one. -/
  | secretUnresolved (key : String)
  | secretFailure (key : String) (failure : HostError)
  /-- The value of a call on the command line. -/
  | returned (function typeName : String)
deriving DecidableEq

namespace LogRecord

def level : LogRecord → LogLevel
  | call .. | source .. => .trace
  | absent .. | charset .. | registryFailure .. | xpathFailure .. | returned .. => .debug
  | secretUnresolved .. | secretFailure .. => .warn

def text (d : Diagnostics) : LogRecord → String
  | call f n => "evaluating " ++ f ++ " with " ++ Decimal.natText n ++ " argument(s)"
  | source f typeName => f ++ ": source is " ++ typeName
  | absent e => "exists: argument failed to evaluate: " ++ e.text d
  | charset f name c => f ++ ": resolved charset " ++ name ++ " to " ++ c.name
  | registryFailure key e => "registry lookup for " ++ key ++ " failed: " ++ e.text
  | xpathFailure e => "xpath evaluation failed: " ++ e.text
  | secretUnresolved key =>
    "secret alias " ++ key ++ " could not be resolved by the vault"
  | secretFailure key e => "secret alias " ++ key ++ " lookup failed: " ++ e.text
  | returned f typeName => f ++ " returned " ++ typeName

end LogRecord

end Predefined
