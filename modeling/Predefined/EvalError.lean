-- Why an evaluation fails, and the text of each failure. A host reports its own failures; they
-- reach the log, and the caller sees which look-up failed.
import Predefined.Diagnostics
import Predefined.Function.Arity
import Predefined.Value.Basic

namespace Predefined

/-- A failure of a host. -/
inductive HostError where
  /-- The content of a resource could not be decoded. -/
  | encoding (detail : String)
  /-- An XPath expression could not be compiled or evaluated. -/
  | xpath (detail : String)
  /-- The vault failed. -/
  | vault (detail : String)
deriving DecidableEq

def HostError.text : HostError → String
  | encoding detail => "Encoding error: " ++ detail
  | xpath detail => "XPath error: " ++ detail
  | vault detail => "Vault error: " ++ detail

inductive EvalError where
  /-- More arguments than any function takes, or not as many as were asked for. -/
  | argumentCount (function : String) (count : Nat)
  /-- No function of this name takes so many arguments. -/
  | unknownFunction (function : String) (arity : Arity)
  | nullArgument (function : String) (role : Role)
  /-- An argument of the wrong kind. Short reports name no operands. -/
  | invalidArgument (function : String) (operands : List (Role × String))
  | invalidIndex (index : Int64) (length : Nat)
  | invalidRange (start stop : Int64) (length : Nat)
  /-- A text that does not read as the target. -/
  | conversion (target : String)
  /-- A value that is no object or array. -/
  | notConvertible (target : String)
  /-- A well-formed name of no known character set. -/
  | unsupportedCharset (function charset : String)
  /-- An ill-formed name of a character set. -/
  | encoding (function : String)
  | invalidBase64 (reason : String)
  | invalidPattern (pattern : String) (fault : Pattern.Fault)
  | overflow (function value : String)
  | resourceNotFound (key : String)
  | propertyNotFound (key property : String)
  | registryAccess (key : String)
  | invalidXPath (expression : String)
  | secretResolution (key : String)
  /-- A failure that an expression carries with it. -/
  | message (text : String)
deriving DecidableEq

namespace EvalError

/-- An argument of the wrong kind, with the texts of the operands by role. -/
def invalidOperands (function : String) (operands : List Value) : EvalError :=
  invalidArgument function (Role.all.zip (operands.map Value.text))

def operandText (operands : List (Role × String)) : String :=
  if operands.isEmpty then ""
  else ". " ++ ", ".intercalate (operands.map fun (role, s) => role.name ++ ": " ++ s)

def text (d : Diagnostics) : EvalError → String
  | argumentCount f n =>
    "Invalid number of arguments: " ++ Decimal.natText n ++ " provided for the function: " ++ f
  | unknownFunction f arity => "Invalid function: " ++ f ++ " with " ++ arity.text
  | nullArgument f role => "Null " ++ role.name ++ " value provided for the function: " ++ f
  | invalidArgument f operands =>
    "Invalid argument provided for " ++ f ++ " function" ++ operandText operands
  | invalidIndex i length =>
    "Invalid index for substring: " ++ Decimal.intText i.toInt ++ ", source string length: "
      ++ Decimal.natText length
  | invalidRange start stop length =>
    "Invalid substring indices: start=" ++ Decimal.intText start.toInt ++ ", end="
      ++ Decimal.intText stop.toInt ++ ", string length=" ++ Decimal.natText length
  | conversion target => "Invalid argument provided for " ++ target ++ " conversion"
  | notConvertible target => "Argument cannot be converted to a JSON " ++ target
  | unsupportedCharset f charset =>
    "Invalid charset provided for " ++ f ++ " function. Charset: " ++ charset
  | encoding f => "Error encoding the string for " ++ f ++ " function"
  | invalidBase64 reason =>
    "Invalid base64 input provided for base64Decode function: " ++ reason
  | invalidPattern pattern fault =>
    "Invalid regular expression provided for split function: " ++ pattern
      ++ " (" ++ d.pattern pattern fault ++ ")"
  | overflow f value => "Numeric overflow in " ++ f ++ " function for value: " ++ value
  | resourceNotFound key => "Could not find the registry resource: " ++ key
  | propertyNotFound key property =>
    "Could not find the property: " ++ property ++ " in the registry resource: " ++ key
  | registryAccess key => "Error retrieving the registry resource: " ++ key
  | invalidXPath expression => "Invalid XPATH expression : " ++ expression
  | secretResolution key => "Error fetching secret value for alias: " ++ key
  | message s => s

end EvalError

end Predefined
