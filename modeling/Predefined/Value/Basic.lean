-- What an expression evaluates to, and how a value reads as JSON, as text, as a truth value and as
-- a double.
import Predefined.Double.Text
import Predefined.Json.Value

namespace Predefined

/-- The result of an expression. The parts of arrays and objects are JSON values. -/
inductive Value where
  | null
  | boolean (b : Bool)
  | integer (i : Int64)
  | double (d : Double)
  | string (s : String)
  | array (elements : List Json)
  | object (members : List (String × Json))

namespace Value

def typeName : Value → String
  | null => "Null"
  | boolean _ => "Boolean"
  | integer _ => "Integer"
  | double _ => "Double"
  | string _ => "String"
  | array _ => "Array"
  | object _ => "Object"

/-! ## Kinds -/

def isNull : Value → Bool
  | null => true
  | _ => false

def isBoolean : Value → Bool
  | boolean _ => true
  | _ => false

def isInteger : Value → Bool
  | integer _ => true
  | _ => false

def isDouble : Value → Bool
  | double _ => true
  | _ => false

def isNumber (v : Value) : Bool :=
  v.isInteger || v.isDouble

def isString : Value → Bool
  | string _ => true
  | _ => false

def isArray : Value → Bool
  | array _ => true
  | _ => false

def isObject : Value → Bool
  | object _ => true
  | _ => false

/-- Booleans, numbers and strings. -/
def isPrimitive (v : Value) : Bool :=
  v.isBoolean || v.isNumber || v.isString

/-! ## JSON -/

/-- Integers that fit in 64 bits with a sign are integers, all other numbers are doubles. -/
def ofNumber : Json.Number → Value
  | .integer i _ =>
    if i < 0x8000000000000000 then integer (Int64.ofInt i) else double (Double.ofInt i)
  | .double d _ => double d

def ofJson : Json → Value
  | .null => null
  | .bool b => boolean b
  | .number n => ofNumber n
  | .string s => string s
  | .array elements => array elements
  | .object members => object members

theorem int64_inRange (i : Int64) :
    -0x8000000000000000 ≤ i.toInt ∧ i.toInt < 0x10000000000000000 := by
  have h₁ := i.le_toInt
  have h₂ := i.toInt_lt
  constructor <;> omega

/-- Doubles that are not finite have no JSON number, and become their text. -/
def toJson : Value → Json
  | null => .null
  | boolean b => .bool b
  | integer i => .number (.integer i.toInt (int64_inRange i))
  | double d => if h : d.isFinite = true then .number (.double d h) else .string d.text
  | string s => .string s
  | array elements => .array elements
  | object members => .object members

/-! ## Readings -/

/-- The text of a value: strings as they are, arrays and objects as compact JSON. -/
def text : Value → String
  | null => "null"
  | boolean b => if b then "true" else "false"
  | integer i => Decimal.intText i.toInt
  | double d => d.text
  | string s => s
  | array elements => (Json.array elements).compact
  | object members => (Json.object members).compact

def asString? : Value → Option String
  | string s => some s
  | _ => none

/-- Numbers as doubles; an integer goes to the nearest one. -/
def asDouble? : Value → Option Double
  | integer i => some (Double.ofInt i.toInt)
  | double d => some d
  | _ => none

/-- Whether a text is the word `true`, in any case. -/
def isTrueText (s : String) : Bool :=
  asciiLower s.toList = ['t', 'r', 'u', 'e']

/-- The truth value: a text is true when it reads `true`, a number when it is not zero. -/
def asBoolean? : Value → Option Bool
  | boolean b => some b
  | string s => some (isTrueText s)
  | integer i => some (i != 0)
  | double d => some (!d.isZero && !d.isNaN)
  | null | array _ | object _ => none

/-- Equality of values. An integer never equals a double, and doubles are equal as numbers are: not
a number equals nothing. -/
def equals : Value → Value → Bool
  | null, null => true
  | boolean a, boolean b => a = b
  | integer a, integer b => a = b
  | double a, double b => a.equals b
  | string a, string b => a = b
  | array as, array bs => Json.equalElements as bs
  | object as, object bs => Json.equalMembers as bs
  | _, _ => false

end Value

end Predefined
