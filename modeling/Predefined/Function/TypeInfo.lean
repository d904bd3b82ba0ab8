-- The types in the signatures of functions, and their documents.
import Predefined.Json.Printer
import Predefined.Json.Record
import Predefined.Json.Value

namespace Predefined

open Json

/-- A type of values. -/
inductive TypeInfo where
  | null
  | boolean
  | integer
  | double
  | string
  | array
  | object
  /-- Integers and doubles. -/
  | number
  | any
  /-- An argument that is not evaluated before the call. -/
  | expression
  | union (types : List TypeInfo)

namespace TypeInfo

/-- The types that stand alone. -/
def simple : List TypeInfo :=
  [null, boolean, integer, double, string, array, object, number, any, expression]

mutual

/-- The name of a type; a union lists its parts. -/
def name : TypeInfo → String
  | null => "Null"
  | boolean => "Boolean"
  | integer => "Integer"
  | double => "Double"
  | string => "String"
  | array => "Array"
  | object => "Object"
  | number => "Number"
  | any => "Any"
  | expression => "Expression"
  | union types => " | ".intercalate (names types)

def names : List TypeInfo → List String
  | [] => []
  | t :: ts => name t :: names ts

end

/-! ## Documents -/

/-- A type that stands alone is written as its name, a union as an object with the list of its
parts. -/
def ofName? (name : String) : Option TypeInfo :=
  simple.find? (·.name = name)

mutual

/-- Reads a type from a document that may nest `room` levels deep. -/
def ofTree? (room : Nat) : Tree → Option TypeInfo
  | .string (some name) => ofName? name
  | .object [(some name, .null)] => if room = 0 then none else ofName? name
  | .object [(some "Union", .array ts)] =>
    if room < 2 then none else (ofTrees? (room - 2) ts).map union
  | _ => none

def ofTrees? (room : Nat) : List Tree → Option (List TypeInfo)
  | [] => some []
  | t :: ts => do
    let type ← ofTree? room t
    let types ← ofTrees? room ts
    pure (type :: types)

end

mutual

def toTree : TypeInfo → Tree
  | union types => Tree.record [("Union", .array (toTrees types))]
  | t => .text t.name

def toTrees : List TypeInfo → List Tree
  | [] => []
  | t :: ts => toTree t :: toTrees ts

end

def parse? (document : String) : Option TypeInfo :=
  (Tree.parse? document).bind (ofTree? nestingLimit)

end TypeInfo

end Predefined
