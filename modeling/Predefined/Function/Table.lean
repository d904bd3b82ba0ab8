-- The predefined functions, one table for each number of arguments. A name may stand in more than
-- one table. Functions that receive their argument before it is evaluated have a table of their
-- own.
import Predefined.Function.Arity

namespace Predefined

/-! ## No arguments -/

inductive Nullary where
  | now
deriving DecidableEq

namespace Nullary

def all : List Nullary :=
  [now]

def name : Nullary → String
  | now => "now"

def documentation : Nullary → String
  | now => "Current time in epoch milliseconds."

def ofName? (name : String) : Option Nullary :=
  all.find? (·.name = name)

end Nullary

/-! ## One argument -/

inductive Unary where
  | length | toLower | toUpper | trim
  | abs | ceil | floor | round | sqrt
  | base64Encode | base64Decode | urlEncode | urlDecode
  | isString | isNumber | isArray | isObject
  | string | integer | float | boolean | object | array
  | not
  | registry | xpath | secret
deriving DecidableEq

namespace Unary

def all : List Unary :=
  [length, toLower, toUpper, trim, abs, ceil, floor, round, sqrt, base64Encode, base64Decode,
    urlEncode, urlDecode, isString, isNumber, isArray, isObject, string, integer, float, boolean,
    object, array, not, registry, xpath, secret]

def name : Unary → String
  | length => "length"
  | toLower => "toLower"
  | toUpper => "toUpper"
  | trim => "trim"
  | abs => "abs"
  | ceil => "ceil"
  | floor => "floor"
  | round => "round"
  | sqrt => "sqrt"
  | base64Encode => "base64Encode"
  | base64Decode => "base64Decode"
  | urlEncode => "urlEncode"
  | urlDecode => "urlDecode"
  | isString => "isString"
  | isNumber => "isNumber"
  | isArray => "isArray"
  | isObject => "isObject"
  | string => "string"
  | integer => "integer"
  | float => "float"
  | boolean => "boolean"
  | object => "object"
  | array => "array"
  | not => "not"
  | registry => "registry"
  | xpath => "xpath"
  | secret => "secret"

def documentation : Unary → String
  | length => "Character count of a string or element count of an array."
  | toLower => "Lower-cases a string or the text of a JSON primitive."
  | toUpper => "Upper-cases a string or the text of a JSON primitive."
  | trim => "Strips leading and trailing whitespace."
  | abs => "Absolute value, keeping the numeric type."
  | ceil => "Smallest integral value not below the input."
  | floor => "Largest integral value not above the input."
  | round => "Rounds a double half-up to an integer."
  | sqrt => "Square root as a double; negative input yields NaN."
  | base64Encode => "Base64 of the UTF-8 bytes of a string."
  | base64Decode => "Decodes base64 text into a UTF-8 string."
  | urlEncode => "Form-urlencodes the UTF-8 bytes of a string."
  | urlDecode => "Decodes form-urlencoded text as UTF-8."
  | isString => "True when the value is a string."
  | isNumber => "True when the value is an integer or a double."
  | isArray => "True when the value is an array."
  | isObject => "True when the value is an object."
  | string => "Textual representation of any value."
  | integer => "Integer value of an integer or of base-10 text."
  | float => "Double value of a double or of decimal text."
  | boolean => "Boolean value; text other than \"true\" reads as false."
  | object => "The value as a JSON object."
  | array => "The value as a JSON array."
  | not => "Logical negation of a boolean-coercible value."
  | registry => "Content of a registry resource."
  | xpath => "Evaluates an XPath expression against the current message."
  | secret => "Resolves a secret alias through the secure vault."

def ofName? (name : String) : Option Unary :=
  all.find? (·.name = name)

end Unary

/-! ## One argument, not evaluated before -/

inductive SpecialForm where
  | exists
deriving DecidableEq

namespace SpecialForm

def all : List SpecialForm :=
  [.exists]

def name : SpecialForm → String
  | .exists => "exists"

def documentation : SpecialForm → String
  | .exists => "True when the argument evaluates to a non-null value without failing."

def ofName? (name : String) : Option SpecialForm :=
  all.find? (·.name = name)

end SpecialForm

/-! ## Two arguments -/

inductive Binary where
  | substring
  | startsWith | endsWith | contains
  | split
  | pow
  | base64Encode | urlEncode
  | registry
deriving DecidableEq

namespace Binary

def all : List Binary :=
  [substring, startsWith, endsWith, contains, split, pow, base64Encode, urlEncode, registry]

def name : Binary → String
  | substring => "substring"
  | startsWith => "startsWith"
  | endsWith => "endsWith"
  | contains => "contains"
  | split => "split"
  | pow => "pow"
  | base64Encode => "base64Encode"
  | urlEncode => "urlEncode"
  | registry => "registry"

def documentation : Binary → String
  | substring => "Tail of a string from a character offset."
  | startsWith => "True when the string starts with the prefix."
  | endsWith => "True when the string ends with the suffix."
  | contains => "True when the string contains the fragment."
  | split => "Splits a string around matches of a regular expression."
  | pow => "Raises a number to a power, as a double."
  | base64Encode => "Base64 of the string's bytes in the named charset."
  | urlEncode => "Form-urlencodes the string's bytes in the named charset."
  | registry => "Named property of a registry resource."

def ofName? (name : String) : Option Binary :=
  all.find? (·.name = name)

end Binary

/-! ## Three arguments -/

inductive Ternary where
  | substring
  | replace
deriving DecidableEq

namespace Ternary

def all : List Ternary :=
  [substring, replace]

def name : Ternary → String
  | substring => "substring"
  | replace => "replace"

def documentation : Ternary → String
  | substring => "Characters of a string in [start, end)."
  | replace => "Replaces every literal occurrence of a fragment."

def ofName? (name : String) : Option Ternary :=
  all.find? (·.name = name)

end Ternary

end Predefined
