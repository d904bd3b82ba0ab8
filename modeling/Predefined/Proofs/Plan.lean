-- What a call does with the values of its arguments: it answers from the values alone, or it asks
-- the host once and answers from the reply. Which of the two it is, and what kind of look-up it
-- makes, is read from the name and the number of arguments (`callValues_plan`).
import Predefined.Context
import Predefined.Proofs.Steps

namespace Predefined

variable {σ : Type}

/-! ## Look-ups -/

/-- The capability that a look-up goes to. -/
inductive Lookup.Kind where
  | resource
  | property
  | secret
  | xpath
deriving DecidableEq

def Lookup.kind : Lookup → Lookup.Kind
  | resource _ => .resource
  | property .. => .property
  | secret _ => .secret
  | xpath _ => .xpath

/-- The look-up that a call of a name with so many arguments makes. -/
def lookupKind? : (name : String) → (count : Nat) → Option Lookup.Kind
  | "registry", 1 => some .resource
  | "registry", 2 => some .property
  | "secret", 1 => some .secret
  | "xpath", 1 => some .xpath
  | _, _ => none

theorem lookupKind?_zero (name : String) : lookupKind? name 0 = none := by
  simp [lookupKind?]

theorem lookupKind?_three (name : String) : lookupKind? name 3 = none := by
  simp [lookupKind?]

/-- What a host replies to a look-up. -/
def Lookup.Reply : Lookup → Type
  | resource _ => Except HostError (Option String)
  | property .. => Option String
  | secret _ => Except HostError String
  | xpath _ => Except HostError Value

def Host.reply (host : Host σ) : (q : Lookup) → σ → q.Reply × σ
  | .resource key => host.resource key
  | .property key name => host.property key name
  | .secret key => host.secret key
  | .xpath expression => host.xpath expression

/-- What a call logs and gives for the reply to its look-up. -/
def Lookup.conclusion (settings : Settings) :
    (q : Lookup) → q.Reply → List LogRecord × Except EvalError Value
  | .resource _, .ok (some content) => ([], .ok (.string content))
  | .resource key, .ok none => ([], .error (.resourceNotFound key))
  | .resource key, .error e => ([.registryFailure key e], .error (.registryAccess key))
  | .property _ _, some value => ([], .ok (.string value))
  | .property key name, none => ([], .error (.propertyNotFound key name))
  | .secret key, .ok value =>
    if settings.vaultPrefix.toList.isPrefixOf value.toList then
      ([.secretUnresolved key], .error (.secretResolution key))
    else ([], .ok (.string value))
  | .secret key, .error e => ([.secretFailure key e], .error (.secretResolution key))
  | .xpath _, .ok v => ([], .ok v)
  | .xpath expression, .error e => ([.xpathFailure e], .error (.invalidXPath expression))

/-- Asks the host and concludes from its reply. -/
def Host.consult (host : Host σ) (settings : Settings) (q : Lookup) : Eval σ Value := do
  let reply ← Eval.ask (host.reply q)
  Eval.conclude (q.conclusion settings reply).1 (q.conclusion settings reply).2

theorem content_eq_consult (host : Host σ) (settings : Settings) (key : String) :
    host.content (.string key) = host.consult settings (.resource key) := by
  refine Eval.ext fun r => ?_
  rw [Host.content, Host.consult, Eval.ask_bind_exec, Eval.ask_bind_exec, Host.reply]
  rcases (host.resource key r.host).1 with _ | _ | _ <;> rfl

theorem propertyValue_eq_consult (host : Host σ) (settings : Settings) (key name : String) :
    host.propertyValue (.string key) (.string name) =
      host.consult settings (.property key name) := by
  refine Eval.ext fun r => ?_
  rw [Host.propertyValue, Host.consult, Eval.ask_bind_exec, Eval.ask_bind_exec, Host.reply]
  rcases (host.property key name r.host).1 with _ | _ <;> rfl

theorem xpathValue_eq_consult (host : Host σ) (settings : Settings) (expression : Value) :
    host.xpathValue expression = host.consult settings (.xpath expression.text) := by
  refine Eval.ext fun r => ?_
  rw [Host.xpathValue, Host.consult, Eval.ask_bind_exec, Eval.ask_bind_exec, Host.reply]
  rcases (host.xpath expression.text r.host).1 with _ | _ <;> rfl

theorem secretValue_eq_consult (host : Host σ) (settings : Settings) (key : Value) :
    host.secretValue settings key = host.consult settings (.secret key.text) := by
  refine Eval.ext fun r => ?_
  rw [Host.secretValue, Host.consult, Eval.ask_bind_exec, Eval.ask_bind_exec, Host.reply]
  rcases (host.secret key.text r.host).1 with _ | value
  · rfl
  · simp only [Lookup.conclusion]
    split <;> rfl

/-! ## Plans -/

/-- How a call goes on once its arguments have values. -/
inductive Plan where
  /-- Logs and gives a result. -/
  | answer (records : List LogRecord) (result : Except EvalError Value)
  /-- Logs, asks the host, and concludes from the reply. -/
  | ask (records : List LogRecord) (question : Lookup)

namespace Plan

def perform (host : Host σ) (settings : Settings) : Plan → Eval σ Value
  | answer records result => Eval.conclude records result
  | ask records question => do
    records.forM Eval.log
    host.consult settings question

/-- The plan makes the look-up that is expected of it, and a plan that makes none although one is
expected fails. -/
def Fits (kind? : Option Lookup.Kind) : Plan → Prop
  | answer _ result => kind? = none ∨ ∃ e, result = .error e
  | ask _ question => kind? = some question.kind

/-- The plan with one more record before all others. -/
def logging (record : LogRecord) : Plan → Plan
  | answer records result => answer (record :: records) result
  | ask records question => ask (record :: records) question

theorem perform_logging (host : Host σ) (settings : Settings) (record : LogRecord) (p : Plan) :
    (p.logging record).perform host settings =
      Eval.log record >>= fun _ => p.perform host settings := by
  cases p <;> rfl

theorem fits_logging {kind? : Option Lookup.Kind} {p : Plan} (record : LogRecord)
    (h : p.Fits kind?) : (p.logging record).Fits kind? := by
  cases p <;> exact h

end Plan

/-- A step of a call that should make a look-up of a kind, or none, has one plan for all hosts. -/
def Planned (settings : Settings) (kind? : Option Lookup.Kind)
    (step : (σ : Type) → Host σ → Eval σ Value) : Prop :=
  ∃ plan : Plan, plan.Fits kind? ∧
    ∀ (σ : Type) (host : Host σ), step σ host = plan.perform host settings

section Planned

variable {settings : Settings} {kind? : Option Lookup.Kind}

theorem planned_ofExcept (x : Except EvalError Value) :
    Planned settings none fun _ _ => Eval.ofExcept x :=
  ⟨.answer [] x, Or.inl rfl, fun _ _ => rfl⟩

theorem planned_throw (e : EvalError) : Planned settings kind? fun _ _ => throw e :=
  ⟨.answer [] (.error e), Or.inr ⟨e, rfl⟩, fun _ _ => rfl⟩

theorem planned_log {step : (σ : Type) → Host σ → Eval σ Value} (record : LogRecord)
    (h : Planned settings kind? step) :
    Planned settings kind? fun σ host => Eval.log record >>= fun _ => step σ host := by
  obtain ⟨plan, hfits, hplan⟩ := h
  refine ⟨plan.logging record, Plan.fits_logging record hfits, fun σ host => ?_⟩
  rw [Plan.perform_logging, ← hplan]

theorem planned_consult (q : Lookup) :
    Planned settings (some q.kind) fun _ host => host.consult settings q :=
  ⟨.ask [] q, rfl, fun _ _ => rfl⟩

theorem planned_content (key : Value) :
    Planned settings (some .resource) fun _ host => host.content key := by
  cases key with
  | string k =>
    simp only [content_eq_consult _ settings]
    exact planned_consult (.resource k)
  | _ => exact planned_throw _

theorem planned_propertyValue (key name : Value) :
    Planned settings (some .property) fun _ host => host.propertyValue key name := by
  cases key with
  | string k =>
    cases name with
    | string p =>
      simp only [propertyValue_eq_consult _ settings]
      exact planned_consult (.property k p)
    | _ => exact planned_throw _
  | _ => exact planned_throw _

theorem planned_xpathValue (expression : Value) :
    Planned settings (some .xpath) fun _ host => host.xpathValue expression := by
  simp only [xpathValue_eq_consult _ settings]
  exact planned_consult (.xpath expression.text)

theorem planned_secretValue (key : Value) :
    Planned settings (some .secret) fun _ host => host.secretValue settings key := by
  simp only [secretValue_eq_consult]
  exact planned_consult (.secret key.text)

end Planned

/-! ## Functions -/

theorem Unary.name_of_ofName? {name : String} {f : Unary} (h : Unary.ofName? name = some f) :
    f.name = name := by
  simpa using List.find?_some h

theorem Binary.name_of_ofName? {name : String} {f : Binary} (h : Binary.ofName? name = some f) :
    f.name = name := by
  simpa using List.find?_some h

theorem planned_unary (settings : Settings) (f : Unary) (v : Value) :
    Planned settings (lookupKind? f.name 1) fun _ host => f.apply host settings v := by
  cases f with
  | registry => exact planned_content v
  | xpath => exact planned_xpathValue v
  | secret => exact planned_secretValue v
  | isString => exact planned_ofExcept (.ok (.boolean v.isString))
  | isNumber => exact planned_ofExcept (.ok (.boolean v.isNumber))
  | isArray => exact planned_ofExcept (.ok (.boolean v.isArray))
  | isObject => exact planned_ofExcept (.ok (.boolean v.isObject))
  | string => exact planned_ofExcept (.ok (.string v.text))
  | boolean => exact planned_ofExcept (.ok v.toBoolean)
  | _ => exact planned_ofExcept _

theorem planned_logCharset {settings : Settings} {kind? : Option Lookup.Kind}
    {step : (σ : Type) → Host σ → Eval σ Value} (function : String) (v w : Value)
    (h : Planned settings kind? step) :
    Planned settings kind? fun σ host => logCharset function v w >>= fun _ => step σ host := by
  unfold logCharset
  split
  · split
    · exact planned_log _ h
    · exact h
  · exact h

theorem planned_binary (settings : Settings) (f : Binary) (v w : Value) :
    Planned settings (lookupKind? f.name 2) fun _ host => f.apply host v w := by
  cases f with
  | registry => exact planned_propertyValue v w
  | base64Encode => exact planned_logCharset _ v w (planned_ofExcept _)
  | urlEncode => exact planned_logCharset _ v w (planned_ofExcept _)
  | _ => exact planned_ofExcept _

theorem planned_ternary (settings : Settings) (f : Ternary) (u v w : Value) :
    Planned settings none fun σ _ => (f.apply u v w : Eval σ Value) := by
  cases f with
  | _ => exact planned_ofExcept _

theorem planned_callValues (settings : Settings) (name : String) (values : List Value) :
    Planned settings (lookupKind? name values.length) fun _ host =>
      callValues host settings name values := by
  simp only [callValues, checkArguments_eq]
  split
  · exact planned_throw _
  · rcases values with _ | ⟨v, _ | ⟨w, _ | ⟨x, _ | ⟨y, rest⟩⟩⟩⟩
    · exact planned_throw _
    · rcases hf : Unary.ofName? name with _ | f
      · exact planned_throw _
      · rw [← Unary.name_of_ofName? hf]
        exact planned_log _ (planned_unary settings f v)
    · rcases hf : Binary.ofName? name with _ | f
      · exact planned_throw _
      · rw [← Binary.name_of_ofName? hf]
        exact planned_binary settings f v w
    · rcases hf : Ternary.ofName? name with _ | f
      · exact planned_throw _
      · exact (lookupKind?_three name) ▸ planned_ternary settings f v w x
    · exact planned_throw _

/-- Once the arguments of a call have values, the call asks its host at most once. -/
theorem callValues_plan (settings : Settings) (name : String) (values : List Value) :
    ∃ plan : Plan, plan.Fits (lookupKind? name values.length) ∧
      ∀ (σ : Type) (host : Host σ),
        callValues host settings name values = plan.perform host settings :=
  planned_callValues settings name values

end Predefined
