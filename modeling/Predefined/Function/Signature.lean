-- What a function takes and gives, for the catalogue, and the document that says so.
import Predefined.Function.TypeInfo

namespace Predefined

open Json

structure Parameter where
  name : String
  type : TypeInfo

structure Signature where
  name : String
  parameters : List Parameter
  returnType : TypeInfo
  /-- Calls with equal arguments always agree: neither the clock nor the host is asked. -/
  isPure : Bool
  documentation : String

namespace Parameter

def text (p : Parameter) : String :=
  p.name ++ ": " ++ p.type.name

def toTree (p : Parameter) : Tree :=
  Tree.record [("name", .text p.name), ("param_type", p.type.toTree)]

/-- The type nests inside the parameter. -/
def ofTree? (room : Nat) (t : Tree) : Option Parameter := do
  match ← Record.fields? ["name", "param_type"] t with
  | [name, type] =>
    let name ← Record.required Record.string? name
    let type ← Record.required (TypeInfo.ofTree? (room - 1)) type
    pure { name, type }
  | _ => none

end Parameter

namespace Signature

def arity (s : Signature) : Nat :=
  s.parameters.length

def text (s : Signature) : String :=
  s.name ++ "(" ++ ", ".intercalate (s.parameters.map Parameter.text) ++ ") -> "
    ++ s.returnType.name

def toTree (s : Signature) : Tree :=
  Tree.record [
    ("name", .text s.name),
    ("parameters", .array (s.parameters.map Parameter.toTree)),
    ("return_type", s.returnType.toTree),
    ("pure", .bool s.isPure),
    ("documentation", .text s.documentation)]

def parameters? (room : Nat) : Tree → Option (List Parameter)
  | .array ts => ts.mapM (Parameter.ofTree? (room - 1))
  | _ => none

/-- Reads a signature; every field must be given. -/
def ofTree? (room : Nat) (t : Tree) : Option Signature := do
  match ← Record.fields? ["name", "parameters", "return_type", "pure", "documentation"] t with
  | [name, parameters, returnType, isPure, documentation] =>
    let name ← Record.required Record.string? name
    let parameters ← Record.required (parameters? (room - 1)) parameters
    let returnType ← Record.required (TypeInfo.ofTree? (room - 1)) returnType
    let isPure ← Record.required Record.bool? isPure
    let documentation ← Record.required Record.string? documentation
    pure { name, parameters, returnType, isPure, documentation }
  | _ => none

def parse? (document : String) : Option Signature :=
  (Tree.parse? document).bind (ofTree? nestingLimit)

end Signature

end Predefined
