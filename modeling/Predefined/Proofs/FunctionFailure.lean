-- How functions fail. A function that has its values fails for reasons of its own, in none of the
-- ways that are left to the call around it: no function of the name, too many arguments, a null.
-- What it says of the failure is about itself and its operands.
import Predefined.Proofs.Plan

namespace Predefined

variable {σ α β : Type}

/-! ## Failures of a step -/

namespace Eval

/-- Every failure of a step satisfies a condition. -/
def FailsOnly (p : EvalError → Prop) (m : Eval σ α) : Prop :=
  ∀ r e, (m.exec r).1 = .error e → p e

variable {p : EvalError → Prop}

theorem FailsOnly.mono {q : EvalError → Prop} {m : Eval σ α} (h : FailsOnly p m)
    (hpq : ∀ e, p e → q e) : FailsOnly q m :=
  fun r e he => hpq e (h r e he)

theorem failsOnly_pure (a : α) : FailsOnly p (pure a : Eval σ α) := by
  intro r e h
  cases h

theorem failsOnly_throw {e : EvalError} (he : p e) : FailsOnly p (throw e : Eval σ α) := by
  intro r e' h
  cases h
  exact he

theorem failsOnly_log (record : LogRecord) : FailsOnly p (log record : Eval σ Unit) := by
  intro r e h
  cases h

theorem failsOnly_ask (look : σ → α × σ) : FailsOnly p (ask look) := by
  intro r e h
  cases h

theorem failsOnly_ofExcept {x : Except EvalError α} (hx : ∀ e, x = .error e → p e) :
    FailsOnly p (ofExcept x : Eval σ α) := by
  intro r e h
  rw [exec_ofExcept] at h
  exact hx e h

theorem failsOnly_bind {m : Eval σ α} {f : α → Eval σ β} (hm : FailsOnly p m)
    (hf : ∀ a, FailsOnly p (f a)) : FailsOnly p (m >>= f) := by
  intro r e h
  rw [exec_bind] at h
  rcases hr : m.exec r with ⟨e' | a, s⟩
  · rw [hr] at h
    cases h
    exact hm r e (congrArg Prod.fst hr)
  · rw [hr] at h
    exact hf a s e h

/-- A failure under an `exists` is turned into a value. -/
theorem failsOnly_present (m : Eval σ Value) : FailsOnly p (present m) := by
  intro r e h
  rcases hr : m.exec r with ⟨_ | v, s⟩
  · rw [present_of_error hr] at h
    cases h
  · rw [present_of_ok hr] at h
    cases h

end Eval

/-! ## Failures of functions -/

/-- The failures that a function gives. The others are those of a call that finds no function or has
no values to give to it, and those that an expression carries with it. -/
def EvalError.OfFunction : EvalError → Prop
  | argumentCount .. | unknownFunction .. | nullArgument .. | message _ => False
  | _ => True

/-- A function fails for its operands: it names itself, a number or a reason, or the text of an
operand. -/
inductive EvalError.Blames (name : String) (operands : List Value) : EvalError → Prop where
  | kind : Blames name operands (invalidOperands name operands)
  | kindOnly : Blames name operands (invalidOperands name [])
  | index {i : Int64} {length : Nat} : Blames name operands (.invalidIndex i length)
  | range {i j : Int64} {length : Nat} : Blames name operands (.invalidRange i j length)
  | conversion : Blames name operands (.conversion name)
  | notConvertible : Blames name operands (.notConvertible name)
  | charset {v : Value} (h : v ∈ operands) :
    Blames name operands (.unsupportedCharset name v.text)
  | charsetName : Blames name operands (.encoding name)
  | base64 {fault : Base64.Fault} : Blames name operands (.invalidBase64 fault.text)
  | pattern {s : String} {fault : Pattern.Fault} (h : .string s ∈ operands)
    (refused : Pattern.compile s = .error fault) : Blames name operands (.invalidPattern s fault)
  | overflow {i : Int} : Blames name operands (.overflow name (Decimal.intText i))
  | doubleOverflow {d : Double} : Blames name operands (.overflow name d.text)
  | resource {v : Value} (h : v ∈ operands) : Blames name operands (.resourceNotFound v.text)
  | property {v w : Value} (hv : v ∈ operands) (hw : w ∈ operands) :
    Blames name operands (.propertyNotFound v.text w.text)
  | access {v : Value} (h : v ∈ operands) : Blames name operands (.registryAccess v.text)
  | xpath {v : Value} (h : v ∈ operands) : Blames name operands (.invalidXPath v.text)
  | secret {v : Value} (h : v ∈ operands) : Blames name operands (.secretResolution v.text)

theorem EvalError.Blames.ofFunction {name : String} {operands : List Value} {e : EvalError}
    (h : e.Blames name operands) : e.OfFunction := by
  cases h <;> trivial

namespace Value

variable {u v w : Value} {e : EvalError}

theorem length_eq_error (h : length v = .error e) : e.Blames "length" [v] := by
  cases v <;> cases h <;> exact .kindOnly

theorem mapText_eq_error {function : String} {f : List Char → List Char}
    (h : mapText function f v = .error e) : e.Blames function [v] := by
  unfold mapText at h
  split at h <;> cases h
  exact .kindOnly

theorem trim_eq_error (h : trim v = .error e) : e.Blames "trim" [v] := by
  cases v <;> cases h <;> exact .kindOnly

theorem abs_eq_error (h : abs v = .error e) : e.Blames "abs" [v] := by
  unfold abs at h
  split at h
  · split at h <;> cases h
    exact .overflow
  · cases h
  · cases h
    exact .kindOnly

theorem ceil_eq_error (h : ceil v = .error e) : e.Blames "ceil" [v] := by
  cases v <;> cases h <;> exact .kindOnly

theorem floor_eq_error (h : floor v = .error e) : e.Blames "floor" [v] := by
  cases v <;> cases h <;> exact .kindOnly

theorem round_eq_error {policy : OverflowPolicy} (h : round policy v = .error e) :
    e.Blames "round" [v] := by
  unfold round at h
  split at h
  · cases h
  · dsimp only at h
    split at h
    · cases h
    · split at h <;> cases h
      exact .doubleOverflow
  · cases h
    exact .kindOnly

theorem sqrt_eq_error (h : sqrt v = .error e) : e.Blames "sqrt" [v] := by
  unfold sqrt at h
  split at h <;> cases h
  exact .kindOnly

theorem pow_eq_error (h : pow v w = .error e) : e.Blames "pow" [v, w] := by
  unfold pow at h
  split at h <;> cases h
  exact .kind

theorem toInteger_eq_error (h : toInteger v = .error e) : e.Blames "integer" [v] := by
  unfold toInteger at h
  split at h
  · cases h
  · split at h <;> cases h
    exact .conversion

theorem toFloat_eq_error (h : toFloat v = .error e) : e.Blames "float" [v] := by
  unfold toFloat at h
  split at h
  · cases h
  · split at h <;> cases h
    exact .conversion

theorem toObject_eq_error (h : toObject v = .error e) : e.Blames "object" [v] := by
  cases v <;> cases h <;> exact .notConvertible

theorem toArray_eq_error (h : toArray v = .error e) : e.Blames "array" [v] := by
  cases v <;> cases h <;> exact .notConvertible

theorem not_eq_error (h : not v = .error e) : e.Blames "not" [v] := by
  unfold not at h
  split at h <;> cases h
  exact .kindOnly

theorem resolve_eq_error {function name : String} {operands : List Value}
    (hname : string name ∈ operands) (h : Charset.resolve function name = .error e) :
    e.Blames function operands := by
  unfold Charset.resolve at h
  split at h
  · cases h
    exact .charsetName
  · split at h <;> cases h
    exact .charset hname

/-- Both codings fail only for the bytes that they are to write. -/
theorem map_sourceBytes_eq_error {function : String} {charset : Option Value}
    {code : List UInt8 → Value} (h : (sourceBytes function v charset).map code = .error e) :
    e.Blames function (v :: charset.toList) := by
  rcases hbytes : sourceBytes function v charset with e' | bytes
  · rw [hbytes] at h
    cases h
    unfold sourceBytes at hbytes
    split at hbytes
    · cases hbytes
    · next name =>
      rcases hresolve : Charset.resolve function name with e' | charset
      · rw [hresolve] at hbytes
        cases hbytes
        exact resolve_eq_error (by simp) hresolve
      · rw [hresolve] at hbytes
        cases hbytes
    · cases hbytes
      exact .kind
  · rw [hbytes] at h
    cases h

theorem base64Decode_eq_error (h : base64Decode v = .error e) : e.Blames "base64Decode" [v] := by
  unfold base64Decode at h
  split at h
  · split at h <;> cases h
    exact .base64
  · cases h
    exact .kindOnly

theorem urlDecode_eq_error (h : urlDecode v = .error e) : e.Blames "urlDecode" [v] := by
  cases v <;> cases h <;> exact .kindOnly

theorem substringFrom_eq_error (h : substringFrom v w = .error e) :
    e.Blames "substring" [v, w] := by
  unfold substringFrom at h
  split at h
  · split at h <;> cases h
    exact .index
  · cases h
    exact .kind

theorem compareText_eq_error {function : String} {holds : List Char → List Char → Bool}
    (h : compareText function holds v w = .error e) : e.Blames function [v, w] := by
  unfold compareText at h
  split at h <;> cases h
  exact .kind

theorem split_eq_error (h : split v w = .error e) : e.Blames "split" [v, w] := by
  unfold split at h
  split at h
  · next p =>
    split at h
    · cases h
    · next fault hfault =>
      cases h
      exact .pattern (by simp) hfault
  · cases h
    exact .kind

theorem substringRange_eq_error (h : substringRange u v w = .error e) :
    e.Blames "substring" [u, v, w] := by
  unfold substringRange at h
  split at h
  · split at h <;> cases h
    exact .range
  · cases h
    exact .kind

theorem replace_eq_error (h : replace u v w = .error e) : e.Blames "replace" [u, v, w] := by
  unfold replace at h
  split at h <;> cases h
  exact .kind

end Value

section Functions

variable (host : Host σ) (settings : Settings) (u v w : Value)

open Eval EvalError

theorem failsOnly_content : FailsOnly (Blames "registry" [v]) (host.content v) := by
  unfold Host.content
  split
  · next k =>
    have hk : Value.string k ∈ [Value.string k] := List.mem_singleton_self _
    refine failsOnly_bind (failsOnly_ask _) fun reply => ?_
    rcases reply with e | _ | content
    · exact failsOnly_bind (failsOnly_log _) fun _ => failsOnly_throw (.access hk)
    · exact failsOnly_throw (.resource hk)
    · exact failsOnly_pure _
  · exact failsOnly_throw .kind

theorem failsOnly_propertyValue :
    FailsOnly (Blames "registry" [v, w]) (host.propertyValue v w) := by
  unfold Host.propertyValue
  split
  · next k p =>
    refine failsOnly_bind (failsOnly_ask _) fun reply => ?_
    cases reply with
    | none =>
      exact failsOnly_throw (.property (v := .string k) (w := .string p) (by simp) (by simp))
    | some value => exact failsOnly_pure _
  · exact failsOnly_throw .kind

theorem failsOnly_xpathValue : FailsOnly (Blames "xpath" [v]) (host.xpathValue v) := by
  refine failsOnly_bind (failsOnly_ask _) fun reply => ?_
  cases reply with
  | ok w => exact failsOnly_pure w
  | error e =>
    exact failsOnly_bind (failsOnly_log _) fun _ => failsOnly_throw (.xpath (by simp))

theorem failsOnly_secretValue :
    FailsOnly (Blames "secret" [v]) (host.secretValue settings v) := by
  have hv : Blames "secret" [v] (.secretResolution v.text) := .secret (List.mem_singleton_self v)
  refine failsOnly_bind (failsOnly_ask _) fun reply => ?_
  cases reply with
  | ok value =>
    dsimp only
    split
    · exact failsOnly_bind (failsOnly_log _) fun _ => failsOnly_throw hv
    · exact failsOnly_pure _
  | error e => exact failsOnly_bind (failsOnly_log _) fun _ => failsOnly_throw hv

theorem Unary.failsOnly_apply (f : Unary) :
    FailsOnly (Blames f.name [v]) (f.apply host settings v) := by
  cases f with
  | length => exact failsOnly_ofExcept fun _ => Value.length_eq_error
  | toLower => exact failsOnly_ofExcept fun _ => Value.mapText_eq_error
  | toUpper => exact failsOnly_ofExcept fun _ => Value.mapText_eq_error
  | trim => exact failsOnly_ofExcept fun _ => Value.trim_eq_error
  | abs => exact failsOnly_ofExcept fun _ => Value.abs_eq_error
  | ceil => exact failsOnly_ofExcept fun _ => Value.ceil_eq_error
  | floor => exact failsOnly_ofExcept fun _ => Value.floor_eq_error
  | round => exact failsOnly_ofExcept fun _ => Value.round_eq_error
  | sqrt => exact failsOnly_ofExcept fun _ => Value.sqrt_eq_error
  | base64Encode => exact failsOnly_ofExcept fun _ => Value.map_sourceBytes_eq_error
  | base64Decode => exact failsOnly_ofExcept fun _ => Value.base64Decode_eq_error
  | urlEncode => exact failsOnly_ofExcept fun _ => Value.map_sourceBytes_eq_error
  | urlDecode => exact failsOnly_ofExcept fun _ => Value.urlDecode_eq_error
  | integer => exact failsOnly_ofExcept fun _ => Value.toInteger_eq_error
  | float => exact failsOnly_ofExcept fun _ => Value.toFloat_eq_error
  | object => exact failsOnly_ofExcept fun _ => Value.toObject_eq_error
  | array => exact failsOnly_ofExcept fun _ => Value.toArray_eq_error
  | not => exact failsOnly_ofExcept fun _ => Value.not_eq_error
  | registry => exact failsOnly_content host v
  | xpath => exact failsOnly_xpathValue host v
  | secret => exact failsOnly_secretValue host settings v
  | isString | isNumber | isArray | isObject | string | boolean => exact failsOnly_pure _

theorem failsOnly_logCharset {p : EvalError → Prop} (function : String) :
    FailsOnly p (logCharset function v w : Eval σ Unit) := by
  unfold logCharset
  split
  · split
    · exact failsOnly_log _
    · exact failsOnly_pure _
  · exact failsOnly_pure _

theorem Binary.failsOnly_apply (f : Binary) :
    FailsOnly (Blames f.name [v, w]) (f.apply host v w) := by
  cases f with
  | substring => exact failsOnly_ofExcept fun _ => Value.substringFrom_eq_error
  | startsWith => exact failsOnly_ofExcept fun _ => Value.compareText_eq_error
  | endsWith => exact failsOnly_ofExcept fun _ => Value.compareText_eq_error
  | contains => exact failsOnly_ofExcept fun _ => Value.compareText_eq_error
  | split => exact failsOnly_ofExcept fun _ => Value.split_eq_error
  | pow => exact failsOnly_ofExcept fun _ => Value.pow_eq_error
  | base64Encode =>
    refine failsOnly_bind (failsOnly_logCharset v w _) fun _ => ?_
    exact failsOnly_ofExcept fun _ => Value.map_sourceBytes_eq_error
  | urlEncode =>
    refine failsOnly_bind (failsOnly_logCharset v w _) fun _ => ?_
    exact failsOnly_ofExcept fun _ => Value.map_sourceBytes_eq_error
  | registry => exact failsOnly_propertyValue host v w

theorem Ternary.failsOnly_apply (f : Ternary) :
    FailsOnly (Blames f.name [u, v, w]) (f.apply u v w : Eval σ Value) := by
  cases f with
  | substring => exact failsOnly_ofExcept fun _ => Value.substringRange_eq_error
  | replace => exact failsOnly_ofExcept fun _ => Value.replace_eq_error

/-- A function that is found by its name blames itself and the values it is called with. -/
theorem builtIn_blames {name : String} {values : List Value} {m : Eval σ Value}
    (h : builtIn? host settings name values = some m) : FailsOnly (Blames name values) m := by
  match values, h with
  | [v], h =>
    obtain ⟨f, hf, rfl⟩ := Option.map_eq_some_iff.1 h
    rw [← Unary.name_of_ofName? hf]
    exact failsOnly_bind (failsOnly_log _) fun _ => f.failsOnly_apply host settings v
  | [v, w], h =>
    obtain ⟨f, hf, rfl⟩ := Option.map_eq_some_iff.1 h
    rw [← Binary.name_of_ofName? hf]
    exact f.failsOnly_apply host v w
  | [u, v, w], h =>
    obtain ⟨f, hf, rfl⟩ := Option.map_eq_some_iff.1 h
    have hname : f.name = name := by simpa using List.find?_some hf
    rw [← hname]
    exact f.failsOnly_apply u v w

theorem failsOnly_builtIn {name : String} {values : List Value} {m : Eval σ Value}
    (h : builtIn? host settings name values = some m) : FailsOnly OfFunction m :=
  (builtIn_blames host settings h).mono fun _ => Blames.ofFunction

end Functions

end Predefined
