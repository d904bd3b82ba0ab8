-- The evaluation of expressions. A call is routed by the number of its arguments first and by its
-- name second. The arguments are evaluated from left to right, the first failure ends the walk, and
-- only when all of them have values are they checked for null. The name is looked up after that, so
-- that a call of an unknown function still evaluates its arguments.
import Predefined.Expr.Basic
import Predefined.Function.Table
import Predefined.Host
import Predefined.LogRecord
import Predefined.Value.Arithmetic
import Predefined.Value.Coding
import Predefined.Value.Conversion
import Predefined.Value.Split
import Predefined.Value.Text

namespace Predefined

/-- What an evaluation carries along: the state of the host, the labels of recorded nodes, and the
log. -/
structure Run (σ : Type) where
  host : σ
  journal : Array String
  log : Array LogRecord

/-- A run that has not begun. -/
def Run.start {σ : Type} (host : σ) : Run σ :=
  ⟨host, #[], #[]⟩

/-- A step of an evaluation. What it did before a failure stays done. -/
abbrev Eval (σ : Type) (α : Type) := ExceptT EvalError (StateM (Run σ)) α

namespace Eval

variable {σ α : Type}

def log (r : LogRecord) : Eval σ Unit :=
  modify fun run => { run with log := run.log.push r }

/-- Leaves a label in the journal. -/
def note (label : String) : Eval σ Unit :=
  modify fun run => { run with journal := run.journal.push label }

/-- Asks the host. -/
def ask (look : σ → α × σ) : Eval σ α :=
  modifyGet fun run =>
    let (a, host) := look run.host
    (a, { run with host })

def ofExcept : Except EvalError α → Eval σ α
  | .ok a => pure a
  | .error e => throw e

/-- The outcome of a step, as a value. -/
def outcome (m : Eval σ α) : Eval σ (Except EvalError α) :=
  fun run =>
    let (result, run) := m.run run
    (.ok result, run)

end Eval

variable {σ : Type}

/-! ## Arguments -/

/-- Refuses null. -/
def checkArgument (function : String) (v : Value) (role : Role) : Except EvalError Unit :=
  if v.isNull then .error (.nullArgument function role) else .ok ()

/-- Checks the first three values for null, in order. -/
def checkArguments (function : String) (values : List Value) : Except EvalError Unit :=
  (values.zip Role.all).forM fun (v, role) => checkArgument function v role

/-- The values of exactly `n` arguments, given the step that evaluates them all. -/
def argumentValues (n : Nat) (function : String) (evaluateAll : Eval σ (List Value)) :
    Eval σ (Vector Value n) := do
  let values ← evaluateAll
  Eval.ofExcept (checkArguments function values)
  if h : values.length = n then pure ⟨values.toArray, h⟩
  else throw (.argumentCount function values.length)

/-! ## Look-ups -/

/-- The content of a registry resource. -/
def Host.content (host : Host σ) (key : Value) : Eval σ Value :=
  match key with
  | .string k => do
    match ← Eval.ask (host.resource k) with
    | .ok (some content) => pure (.string content)
    | .ok none => throw (.resourceNotFound k)
    | .error e =>
      Eval.log (.registryFailure k e)
      throw (.registryAccess k)
  | _ => throw (.invalidOperands "registry" [key])

/-- A property of a registry resource. -/
def Host.propertyValue (host : Host σ) (key name : Value) : Eval σ Value :=
  match key, name with
  | .string k, .string p => do
    match ← Eval.ask (host.property k p) with
    | some value => pure (.string value)
    | none => throw (.propertyNotFound k p)
  | _, _ => throw (.invalidOperands "registry" [key, name])

def Host.xpathValue (host : Host σ) (expression : Value) : Eval σ Value := do
  match ← Eval.ask (host.xpath expression.text) with
  | .ok v => pure v
  | .error e =>
    Eval.log (.xpathFailure e)
    throw (.invalidXPath expression.text)

/-- Resolves a secret. An answer that starts with the mark of an unknown alias is a failure. -/
def Host.secretValue (host : Host σ) (settings : Settings) (key : Value) : Eval σ Value := do
  match ← Eval.ask (host.secret key.text) with
  | .ok value =>
    if settings.vaultPrefix.toList.isPrefixOf value.toList then
      Eval.log (.secretUnresolved key.text)
      throw (.secretResolution key.text)
    else pure (.string value)
  | .error e =>
    Eval.log (.secretFailure key.text e)
    throw (.secretResolution key.text)

/-- Whether a step gives a value other than null. A failure reads as no. -/
def Eval.present (evaluate : Eval σ Value) : Eval σ Value := do
  match ← Eval.outcome evaluate with
  | .ok v => pure (.boolean !v.isNull)
  | .error e =>
    Eval.log (.absent e)
    pure (.boolean false)

/-! ## Functions by their number of arguments -/

def Nullary.apply (host : Host σ) : Nullary → Eval σ Value
  | .now => pure (.integer host.clock)

def Unary.apply (host : Host σ) (settings : Settings) (f : Unary) (v : Value) : Eval σ Value :=
  match f with
  | .length => Eval.ofExcept v.length
  | .toLower => Eval.ofExcept v.toLower
  | .toUpper => Eval.ofExcept v.toUpper
  | .trim => Eval.ofExcept v.trim
  | .abs => Eval.ofExcept v.abs
  | .ceil => Eval.ofExcept v.ceil
  | .floor => Eval.ofExcept v.floor
  | .round => Eval.ofExcept (v.round settings.overflow)
  | .sqrt => Eval.ofExcept v.sqrt
  | .base64Encode => Eval.ofExcept (v.base64Encode none)
  | .base64Decode => Eval.ofExcept v.base64Decode
  | .urlEncode => Eval.ofExcept (v.urlEncode none)
  | .urlDecode => Eval.ofExcept v.urlDecode
  | .isString => pure (.boolean v.isString)
  | .isNumber => pure (.boolean v.isNumber)
  | .isArray => pure (.boolean v.isArray)
  | .isObject => pure (.boolean v.isObject)
  | .string => pure (.string v.text)
  | .integer => Eval.ofExcept v.toInteger
  | .float => Eval.ofExcept v.toFloat
  | .boolean => pure v.toBoolean
  | .object => Eval.ofExcept v.toObject
  | .array => Eval.ofExcept v.toArray
  | .not => Eval.ofExcept v.not
  | .registry => host.content v
  | .xpath => host.xpathValue v
  | .secret => host.secretValue settings v

/-- Logs the character set that a coding function is about to use. -/
def logCharset (function : String) (source charset : Value) : Eval σ Unit :=
  match source, charset with
  | .string _, .string name =>
    match Charset.resolve function name with
    | .ok c => Eval.log (.charset function name c)
    | .error _ => pure ()
  | _, _ => pure ()

def Binary.apply (host : Host σ) (f : Binary) (v w : Value) : Eval σ Value :=
  match f with
  | .substring => Eval.ofExcept (v.substringFrom w)
  | .startsWith => Eval.ofExcept (v.startsWith w)
  | .endsWith => Eval.ofExcept (v.endsWith w)
  | .contains => Eval.ofExcept (v.contains w)
  | .split => Eval.ofExcept (v.split w)
  | .pow => Eval.ofExcept (v.pow w)
  | .base64Encode => do
    logCharset "base64Encode" v w
    Eval.ofExcept (v.base64Encode (some w))
  | .urlEncode => do
    logCharset "urlEncode" v w
    Eval.ofExcept (v.urlEncode (some w))
  | .registry => host.propertyValue v w

def Ternary.apply (f : Ternary) (u v w : Value) : Eval σ Value :=
  match f with
  | .substring => Eval.ofExcept (u.substringRange v w)
  | .replace => Eval.ofExcept (u.replace v w)

/-! ## Calls -/

def callNullary (host : Host σ) (name : String) : Eval σ Value :=
  match Nullary.ofName? name with
  | some f => f.apply host
  | none => throw (.unknownFunction name .nullary)

def callUnary (host : Host σ) (settings : Settings) (name : String)
    (evaluateAll : Eval σ (List Value)) : Eval σ Value := do
  let values ← argumentValues 1 name evaluateAll
  match Unary.ofName? name with
  | some f =>
    Eval.log (.source f.name values[0].typeName)
    f.apply host settings values[0]
  | none => throw (.unknownFunction name .unary)

def callBinary (host : Host σ) (name : String) (evaluateAll : Eval σ (List Value)) :
    Eval σ Value := do
  let values ← argumentValues 2 name evaluateAll
  match Binary.ofName? name with
  | some f => f.apply host values[0] values[1]
  | none => throw (.unknownFunction name .binary)

def callTernary (name : String) (evaluateAll : Eval σ (List Value)) : Eval σ Value := do
  let values ← argumentValues 3 name evaluateAll
  match Ternary.ofName? name with
  | some f => f.apply values[0] values[1] values[2]
  | none => throw (.unknownFunction name .ternary)

/-- A special form takes the step that evaluates its argument, and not the value. -/
def SpecialForm.apply (f : SpecialForm) (evaluateAll : Eval σ (List Value)) : Eval σ Value :=
  match f with
  | .exists => Eval.present do
    let values ← evaluateAll
    pure (values.headD .null)

/-- Calls a function with `count` arguments, given the step that evaluates them all. The step is not
taken when no function has so many arguments. -/
def call (host : Host σ) (settings : Settings) (name : String) (count : Nat)
    (evaluateAll : Eval σ (List Value)) : Eval σ Value := do
  Eval.log (.call name count)
  match Arity.ofCount? count with
  | some .nullary => callNullary host name
  | some .unary =>
    match SpecialForm.ofName? name with
    | some f => f.apply evaluateAll
    | none => callUnary host settings name evaluateAll
  | some .binary => callBinary host name evaluateAll
  | some .ternary => callTernary name evaluateAll
  | none => throw (.argumentCount name count)

namespace Expr

mutual

/-- The evaluation of an expression. -/
def eval (host : Host σ) : Expr → Eval σ Value
  | literal v => pure v
  | failing text => throw (.message text)
  | recorded label inner => do
    Eval.note label
    eval host inner
  | call function arguments settings =>
    Predefined.call host settings function arguments.length (evalAll host arguments)

/-- The values of expressions, from left to right. The first failure ends the walk. -/
def evalAll (host : Host σ) : List Expr → Eval σ (List Value)
  | [] => pure []
  | e :: es => do
    let v ← eval host e
    let vs ← evalAll host es
    pure (v :: vs)

end

end Expr

end Predefined
