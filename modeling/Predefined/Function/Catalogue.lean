-- The catalogue: the signature of every predefined function, and its documentation as Markdown and
-- as JSON.
import Predefined.Function.Signature
import Predefined.Function.Table

namespace Predefined

open Json

/-! ## Signatures -/

def Nullary.signature (f : Nullary) : Signature :=
  match f with
  | .now => ⟨f.name, [], .integer, false, f.documentation⟩

/-- The parameter of a function of one argument. -/
def Unary.parameter : Unary → Parameter
  | .length => ⟨"source", .union [.string, .array]⟩
  | .toLower | .toUpper | .string => ⟨"source", .any⟩
  | .trim | .base64Decode | .urlDecode | .base64Encode | .urlEncode => ⟨"source", .string⟩
  | .abs | .ceil | .floor | .round | .sqrt => ⟨"source", .number⟩
  | .isString | .isNumber | .isArray | .isObject | .boolean | .not => ⟨"source", .any⟩
  | .integer | .float => ⟨"source", .any⟩
  | .object => ⟨"source", .object⟩
  | .array => ⟨"source", .array⟩
  | .registry => ⟨"key", .string⟩
  | .xpath => ⟨"expression", .string⟩
  | .secret => ⟨"alias", .string⟩

def Unary.returnType : Unary → TypeInfo
  | .length | .round | .integer => .integer
  | .toLower | .toUpper | .string | .trim => .string
  | .base64Decode | .urlDecode | .base64Encode | .urlEncode => .string
  | .abs | .ceil | .floor => .number
  | .sqrt | .float => .double
  | .isString | .isNumber | .isArray | .isObject | .boolean | .not => .boolean
  | .object => .object
  | .array => .array
  | .registry | .secret => .string
  | .xpath => .any

/-- Functions that ask the host are not pure. -/
def Unary.isPure : Unary → Bool
  | .registry | .xpath | .secret => false
  | _ => true

def Unary.signature (f : Unary) : Signature :=
  ⟨f.name, [f.parameter], f.returnType, f.isPure, f.documentation⟩

/-- A special form may reach the host through its argument. -/
def SpecialForm.signature (f : SpecialForm) : Signature :=
  match f with
  | .exists => ⟨f.name, [⟨"expression", .expression⟩], .boolean, false, f.documentation⟩

def Binary.parameters : Binary → List Parameter
  | .substring => [⟨"source", .string⟩, ⟨"start", .integer⟩]
  | .startsWith | .endsWith | .contains => [⟨"source", .string⟩, ⟨"fragment", .string⟩]
  | .split => [⟨"source", .string⟩, ⟨"pattern", .string⟩]
  | .pow => [⟨"source", .number⟩, ⟨"exponent", .number⟩]
  | .base64Encode | .urlEncode => [⟨"source", .string⟩, ⟨"charset", .string⟩]
  | .registry => [⟨"key", .string⟩, ⟨"property", .string⟩]

def Binary.returnType : Binary → TypeInfo
  | .substring | .base64Encode | .urlEncode | .registry => .string
  | .startsWith | .endsWith | .contains => .boolean
  | .split => .array
  | .pow => .double

def Binary.isPure : Binary → Bool
  | .registry => false
  | _ => true

def Binary.signature (f : Binary) : Signature :=
  ⟨f.name, f.parameters, f.returnType, f.isPure, f.documentation⟩

def Ternary.parameters : Ternary → List Parameter
  | .substring => [⟨"source", .string⟩, ⟨"start", .integer⟩, ⟨"end", .integer⟩]
  | .replace => [⟨"source", .string⟩, ⟨"target", .string⟩, ⟨"replacement", .string⟩]

def Ternary.signature (f : Ternary) : Signature :=
  ⟨f.name, f.parameters, .string, true, f.documentation⟩

namespace Catalogue

/-- The signatures table by table. -/
def unsorted : List Signature :=
  Nullary.all.map Nullary.signature ++ Unary.all.map Unary.signature
    ++ SpecialForm.all.map SpecialForm.signature ++ Binary.all.map Binary.signature
    ++ Ternary.all.map Ternary.signature

/-- The order of the catalogue: by name, then by the number of arguments. -/
def precedes (a b : Signature) : Bool :=
  a.name < b.name || (a.name = b.name && a.arity ≤ b.arity)

def signatures : List Signature :=
  unsorted.mergeSort precedes

/-- The signatures under a name, those with fewer arguments first. -/
def lookup (name : String) : List Signature :=
  signatures.filter (·.name = name)

/-- Whether a function of the name takes so many arguments. -/
def supports (name : String) : Arity → Bool
  | .nullary => (Nullary.ofName? name).isSome
  | .unary => (Unary.ofName? name).isSome || (SpecialForm.ofName? name).isSome
  | .binary => (Binary.ofName? name).isSome
  | .ternary => (Ternary.ofName? name).isSome

/-- The names in increasing order, each once. -/
def names : List String :=
  (signatures.map (·.name)).eraseReps

/-! ## Documentation -/

def signatureLine (s : Signature) : String :=
  let documentation := if s.documentation.isEmpty then "" else ": " ++ s.documentation
  "- `" ++ s.text ++ "`" ++ documentation ++ "\n"

def sectionText (name : String) : String :=
  "## `" ++ name ++ "`\n\n" ++ String.join ((lookup name).map signatureLine) ++ "\n"

/-- The documentation as Markdown, a section for each name. -/
def markdown : String :=
  "# Predefined Function Documentation\n\n" ++ String.join (names.map sectionText)

def parameterTree (p : Parameter) : Tree :=
  Tree.record [("name", .text p.name), ("type", .text p.type.name)]

def signatureTree (s : Signature) : Tree :=
  Tree.record [
    ("arity", .number (Numeral.ofInt s.arity)),
    ("documentation", .text s.documentation),
    ("name", .text s.name),
    ("parameters", .array (s.parameters.map parameterTree)),
    ("pure", .bool s.isPure),
    ("return_type", .text s.returnType.name)]

/-- The documentation as JSON, its keys in order. -/
def document : Tree :=
  Tree.record [
    ("functions", .array (signatures.map signatureTree)),
    ("total_count", .number (Numeral.ofInt signatures.length))]

end Catalogue

end Predefined
