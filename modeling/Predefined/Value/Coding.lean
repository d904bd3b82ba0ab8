-- Base64 and form coding of text.
import Predefined.Encoding.Base64
import Predefined.Encoding.Charset
import Predefined.Encoding.Form
import Predefined.EvalError

namespace Predefined

/-- The character set of a name that an expression gives to a function. An ill-formed name and an
unknown one fail differently. -/
def Charset.resolve (function name : String) : Except EvalError Charset :=
  if !isLegalName name then .error (.encoding function)
  else
    match ofLabel? name with
    | some charset => .ok charset
    | none => .error (.unsupportedCharset function name)

namespace Value

/-- The bytes of a string in the character set that is named, and in UTF-8 when none is. -/
def sourceBytes (function : String) (source : Value) (charset : Option Value) :
    Except EvalError (List UInt8) :=
  match source, charset with
  | string s, none => .ok (Utf8.encode s.toList)
  | string s, some (string name) =>
    (Charset.resolve function name).map fun charset => charset.encode s.toList
  | _, _ => .error (.invalidOperands function (source :: charset.toList))

def base64Encode (source : Value) (charset : Option Value) : Except EvalError Value :=
  (sourceBytes "base64Encode" source charset).map fun bytes =>
    string (String.ofList ((Base64.encode bytes).map fun b => Char.ofNat b.toNat))

/-- The decoded bytes read as UTF-8. -/
def base64Decode : Value → Except EvalError Value
  | string s =>
    match Base64.decode (Utf8.encode s.toList) with
    | .ok bytes => .ok (string (String.ofList (Utf8.decode bytes)))
    | .error fault => .error (.invalidBase64 fault.text)
  | _ => .error (.invalidOperands "base64Decode" [])

def urlEncode (source : Value) (charset : Option Value) : Except EvalError Value :=
  (sourceBytes "urlEncode" source charset).map fun bytes =>
    string (String.ofList (Form.encode bytes))

def urlDecode : Value → Except EvalError Value
  | string s => .ok (string (String.ofList (Form.decode s.toList)))
  | _ => .error (.invalidOperands "urlDecode" [])

end Value

end Predefined
