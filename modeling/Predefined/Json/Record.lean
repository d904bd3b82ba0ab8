-- Documents with fixed fields. Such a document is an object, in which every field stands at most
-- once and other members are passed over, or an array of the values in the order of the fields,
-- which may end early.
import Predefined.Json.Reader

namespace Predefined.Json.Record

/-- The values under a name among the members of an object. -/
def valuesOf (name : String) (members : List (Quoted × Tree)) : List Tree :=
  members.filterMap fun (key, t) => if key = some name then some t else none

/-- The value of one field of an object; no result when it is given twice. -/
def only? : List Tree → Option (Option Tree)
  | [] => some none
  | [t] => some (some t)
  | _ => none

/-- The values given for the named fields, in the order of the names. -/
def fields? (names : List String) : Tree → Option (List (Option Tree))
  | .object members =>
    if members.any (·.1.isNone) then none
    else names.mapM fun name => only? (valuesOf name members)
  | .array elements =>
    if elements.length ≤ names.length then
      some (elements.map some ++ List.replicate (names.length - elements.length) none)
    else none
  | _ => none

/-- Reads a field that must be given. -/
def required {α : Type} (read : Tree → Option α) (field : Option Tree) : Option α :=
  field.bind read

/-- Reads a field that has a default. -/
def optional {α : Type} (default : α) (read : Tree → Option α) : Option Tree → Option α
  | none => some default
  | some t => read t

/-! ## Values of fields -/

def string? : Tree → Option String
  | .string content => content
  | _ => none

def bool? : Tree → Option Bool
  | .bool b => some b
  | _ => none

/-- An object read as pairs of a key and a value, in the order of the document. -/
def pairs? {α : Type} (read : Tree → Option α) : Tree → Option (List (String × α))
  | .object members => members.mapM fun (key, t) => do
    let key ← key
    let a ← read t
    pure (key, a)
  | _ => none

/-- A name from a closed list: as a string, or as the key of an object whose value is null. -/
def word? : Tree → Option String
  | .string content => content
  | .object [(key, .null)] => key
  | _ => none

end Predefined.Json.Record
