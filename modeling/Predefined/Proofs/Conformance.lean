-- What the signatures of the catalogue promise. The functions are written in one place and their
-- types in another, and nothing reads both. Here each function is held against its types: a value
-- that it gives is of the type that the signature returns, and a value that it takes is of the type
-- of its parameter, so that a call that gives a value had arguments of the types of its signature.
import Mathlib.Data.List.Forall2
import Predefined.Function.Catalogue
import Predefined.Proofs.Plan

namespace Predefined

variable {σ : Type}

/-! ## Types -/

namespace TypeInfo

mutual

/-- Whether a value is of a type. An argument that is not evaluated has no value. -/
def accepts : TypeInfo → Value → Bool
  | null, v => v.isNull
  | boolean, v => v.isBoolean
  | integer, v => v.isInteger
  | double, v => v.isDouble
  | string, v => v.isString
  | array, v => v.isArray
  | object, v => v.isObject
  | number, v => v.isNumber
  | any, _ => true
  | expression, _ => false
  | union types, v => someAccepts types v

def someAccepts : List TypeInfo → Value → Bool
  | [], _ => false
  | t :: ts, v => t.accepts v || someAccepts ts v

end

end TypeInfo

/-! ## Functions on values -/

namespace Value

/-- A function takes no values but those of one type, and gives values of another. -/
def Maps (source target : TypeInfo) (f : Value → Except EvalError Value) : Prop :=
  ∀ v w, f v = .ok w → source.accepts v ∧ target.accepts w

/-- A function of two values takes none but those of two types, and gives values of a third. -/
def MapsBoth (left right target : TypeInfo) (f : Value → Value → Except EvalError Value) : Prop :=
  ∀ v w x, f v w = .ok x → left.accepts v ∧ right.accepts w ∧ target.accepts x

theorem maps_length : Maps (.union [.string, .array]) .integer length := by
  intro v w h
  cases v <;> cases h <;> exact ⟨rfl, rfl⟩

theorem maps_mapText (function : String) (f : List Char → List Char) :
    Maps .any .string (mapText function f) := by
  intro v w h
  rw [mapText] at h
  split at h
  · cases h
    exact ⟨rfl, rfl⟩
  · cases h

theorem maps_trim : Maps .string .string trim := by
  intro v w h
  cases v with
  | string s =>
    cases h
    exact ⟨rfl, rfl⟩
  | _ => cases h

theorem maps_abs : Maps .number .number abs := by
  intro v w h
  cases v with
  | integer i =>
    rw [abs] at h
    split at h
    · cases h
    · cases h
      exact ⟨rfl, rfl⟩
  | double d =>
    cases h
    exact ⟨rfl, rfl⟩
  | _ => cases h

theorem maps_ceil : Maps .number .number ceil := by
  intro v w h
  cases v <;> cases h <;> exact ⟨rfl, rfl⟩

theorem maps_floor : Maps .number .number floor := by
  intro v w h
  cases v <;> cases h <;> exact ⟨rfl, rfl⟩

/-- Under both policies, a double that has no nearest integer gives no other kind of value. -/
theorem maps_round (policy : OverflowPolicy) : Maps .number .integer (round policy) := by
  intro v w h
  cases v with
  | integer i =>
    cases h
    exact ⟨rfl, rfl⟩
  | double d =>
    simp only [round] at h
    split at h
    · cases h
      exact ⟨rfl, rfl⟩
    · cases policy with
      | fail => cases h
      | saturate =>
        cases h
        exact ⟨rfl, rfl⟩
  | _ => cases h

theorem number_accepts_of_asDouble? {v : Value} {d : Double} (h : v.asDouble? = some d) :
    TypeInfo.number.accepts v := by
  cases v <;> first | rfl | cases h

theorem maps_sqrt : Maps .number .double sqrt := by
  intro v w h
  rw [sqrt] at h
  split at h
  · next hd =>
    cases h
    exact ⟨number_accepts_of_asDouble? hd, rfl⟩
  · cases h

theorem maps_toInteger : Maps .any .integer toInteger := by
  intro v w h
  refine ⟨rfl, ?_⟩
  unfold toInteger at h
  split at h
  · cases h
    rfl
  · split at h
    · cases h
      rfl
    · cases h

theorem maps_toFloat : Maps .any .double toFloat := by
  intro v w h
  refine ⟨rfl, ?_⟩
  unfold toFloat at h
  split at h
  · cases h
    rfl
  · split at h
    · cases h
      rfl
    · cases h

/-- A question that can be asked of every value. -/
theorem maps_question (holds : Value → Bool) :
    Maps .any .boolean fun v => .ok (boolean (holds v)) := by
  intro v w h
  cases h
  exact ⟨rfl, rfl⟩

theorem maps_text : Maps .any .string fun v => .ok (string v.text) := by
  intro v w h
  cases h
  exact ⟨rfl, rfl⟩

theorem maps_toBoolean : Maps .any .boolean fun v => .ok v.toBoolean := by
  intro v w h
  cases v <;> cases h <;> exact ⟨rfl, rfl⟩

theorem maps_toObject : Maps .object .object toObject := by
  intro v w h
  cases v with
  | object members =>
    cases h
    exact ⟨rfl, rfl⟩
  | _ => cases h

theorem maps_toArray : Maps .array .array toArray := by
  intro v w h
  cases v with
  | array elements =>
    cases h
    exact ⟨rfl, rfl⟩
  | _ => cases h

theorem maps_not : Maps .any .boolean not := by
  intro v w h
  rw [not] at h
  split at h
  · cases h
    exact ⟨rfl, rfl⟩
  · cases h

/-! ### Coding -/

theorem string_accepts_of_sourceBytes {function : String} {v : Value} {charset : Option Value}
    {bytes : List UInt8} (h : sourceBytes function v charset = .ok bytes) :
    TypeInfo.string.accepts v ∧ ∀ w ∈ charset, TypeInfo.string.accepts w := by
  unfold sourceBytes at h
  split at h
  · exact ⟨rfl, by simp⟩
  · exact ⟨rfl, by simp [TypeInfo.accepts, isString]⟩
  · cases h

/-- Both codings take a string, and the name of a character set when they are given one. -/
theorem map_sourceBytes_eq_ok {function : String} {v w : Value} {charset : Option Value}
    {code : List UInt8 → String}
    (h : (sourceBytes function v charset).map (fun bytes => string (code bytes)) = .ok w) :
    TypeInfo.string.accepts v ∧ (∀ c ∈ charset, TypeInfo.string.accepts c) ∧
      TypeInfo.string.accepts w := by
  rcases hbytes : sourceBytes function v charset with _ | bytes
  · rw [hbytes] at h
    cases h
  · rw [hbytes] at h
    cases h
    obtain ⟨hv, hcharset⟩ := string_accepts_of_sourceBytes hbytes
    exact ⟨hv, hcharset, rfl⟩

theorem maps_base64Encode : Maps .string .string fun v => v.base64Encode none := by
  intro v w h
  obtain ⟨hv, -, hw⟩ := map_sourceBytes_eq_ok h
  exact ⟨hv, hw⟩

theorem maps_urlEncode : Maps .string .string fun v => v.urlEncode none := by
  intro v w h
  obtain ⟨hv, -, hw⟩ := map_sourceBytes_eq_ok h
  exact ⟨hv, hw⟩

theorem mapsBoth_base64Encode :
    MapsBoth .string .string .string fun v c => v.base64Encode (some c) := by
  intro v c w h
  obtain ⟨hv, hc, hw⟩ := map_sourceBytes_eq_ok h
  exact ⟨hv, hc c rfl, hw⟩

theorem mapsBoth_urlEncode :
    MapsBoth .string .string .string fun v c => v.urlEncode (some c) := by
  intro v c w h
  obtain ⟨hv, hc, hw⟩ := map_sourceBytes_eq_ok h
  exact ⟨hv, hc c rfl, hw⟩

theorem maps_base64Decode : Maps .string .string base64Decode := by
  intro v w h
  cases v with
  | string s =>
    simp only [base64Decode] at h
    split at h
    · cases h
      exact ⟨rfl, rfl⟩
    · cases h
  | _ => cases h

theorem maps_urlDecode : Maps .string .string urlDecode := by
  intro v w h
  cases v with
  | string s =>
    cases h
    exact ⟨rfl, rfl⟩
  | _ => cases h

/-! ### Two and three values -/

theorem mapsBoth_substringFrom : MapsBoth .string .integer .string substringFrom := by
  intro v w x h
  unfold substringFrom at h
  split at h
  · split at h
    · cases h
      exact ⟨rfl, rfl, rfl⟩
    · cases h
  · cases h

theorem mapsBoth_compareText (function : String) (holds : List Char → List Char → Bool) :
    MapsBoth .string .string .boolean (compareText function holds) := by
  intro v w x h
  unfold compareText at h
  split at h
  · cases h
    exact ⟨rfl, rfl, rfl⟩
  · cases h

theorem mapsBoth_split : MapsBoth .string .string .array split := by
  intro v w x h
  unfold split at h
  split at h
  · split at h
    · cases h
      exact ⟨rfl, rfl, rfl⟩
    · cases h
  · cases h

theorem mapsBoth_pow : MapsBoth .number .number .double pow := by
  intro v w x h
  unfold pow at h
  split at h
  · next hv hw =>
    cases h
    exact ⟨number_accepts_of_asDouble? hv, number_accepts_of_asDouble? hw, rfl⟩
  · cases h

theorem substringRange_eq_ok {u v w x : Value} (h : substringRange u v w = .ok x) :
    TypeInfo.string.accepts u ∧ TypeInfo.integer.accepts v ∧ TypeInfo.integer.accepts w ∧
      TypeInfo.string.accepts x := by
  unfold substringRange at h
  split at h
  · split at h
    · cases h
      exact ⟨rfl, rfl, rfl, rfl⟩
    · cases h
  · cases h

theorem replace_eq_ok {u v w x : Value} (h : replace u v w = .ok x) :
    TypeInfo.string.accepts u ∧ TypeInfo.string.accepts v ∧ TypeInfo.string.accepts w ∧
      TypeInfo.string.accepts x := by
  unfold replace at h
  split at h
  · cases h
    exact ⟨rfl, rfl, rfl, rfl⟩
  · cases h

end Value

/-! ## Look-ups -/

/-- Of the look-ups, only that of an XPath expression gives anything but a string. -/
theorem string_accepts_of_conclusion {settings : Settings} {q : Lookup} {reply : q.Reply}
    {w : Value} (hq : q.kind ≠ .xpath) (h : (q.conclusion settings reply).2 = .ok w) :
    TypeInfo.string.accepts w := by
  cases q with
  | resource key =>
    rcases reply with _ | _ | content <;> cases h
    rfl
  | property key name =>
    rcases reply with _ | value <;> cases h
    rfl
  | secret key =>
    rcases reply with _ | value
    · cases h
    · rw [Lookup.conclusion] at h
      split at h <;> cases h
      rfl
  | xpath expression => exact absurd rfl hq

theorem conclude_eq_ok {records : List LogRecord} {x : Except EvalError Value} {r s : Run σ}
    {w : Value} (h : (Eval.conclude records x).exec r = (.ok w, s)) : x = .ok w := by
  rw [Eval.conclude, Eval.exec_bind_eq_ok] at h
  obtain ⟨_, _, _, h⟩ := h
  rw [Eval.exec_ofExcept] at h
  exact congrArg Prod.fst h

theorem string_accepts_of_consult {host : Host σ} {settings : Settings} {q : Lookup}
    {r s : Run σ} {w : Value} (hq : q.kind ≠ .xpath)
    (h : (host.consult settings q).exec r = (.ok w, s)) : TypeInfo.string.accepts w := by
  rw [Host.consult, Eval.ask_bind_exec] at h
  exact string_accepts_of_conclusion hq (conclude_eq_ok h)

theorem content_eq_ok {host : Host σ} {v w : Value} {r s : Run σ}
    (h : (host.content v).exec r = (.ok w, s)) :
    TypeInfo.string.accepts v ∧ TypeInfo.string.accepts w := by
  cases v with
  | string key =>
    rw [content_eq_consult host .default] at h
    exact ⟨rfl, string_accepts_of_consult (by simp [Lookup.kind]) h⟩
  | _ => cases h

theorem propertyValue_eq_ok {host : Host σ} {v w x : Value} {r s : Run σ}
    (h : (host.propertyValue v w).exec r = (.ok x, s)) :
    TypeInfo.string.accepts v ∧ TypeInfo.string.accepts w ∧ TypeInfo.string.accepts x := by
  cases v with
  | string key =>
    cases w with
    | string name =>
      rw [propertyValue_eq_consult host .default] at h
      exact ⟨rfl, rfl, string_accepts_of_consult (by simp [Lookup.kind]) h⟩
    | _ => cases h
  | _ => cases h

theorem secretValue_eq_ok {host : Host σ} {settings : Settings} {v w : Value} {r s : Run σ}
    (h : (host.secretValue settings v).exec r = (.ok w, s)) : TypeInfo.string.accepts w := by
  rw [secretValue_eq_consult] at h
  exact string_accepts_of_consult (by simp [Lookup.kind]) h

/-! ## Tables -/

/-- What a signature says about the values that a call goes on with and the value it gives. Two
functions read the text of whatever value they get. -/
structure Signature.HoldsFor (s : Signature) (values : List Value) (w : Value) : Prop where
  result : s.returnType.accepts w
  arguments : s.name ≠ "secret" → s.name ≠ "xpath" →
    List.Forall₂ (fun p v => p.type.accepts v = true) s.parameters values

section Tables

variable {host : Host σ} {settings : Settings} {r s : Run σ} {u v w x : Value}

theorem Unary.holdsFor_of_maps {f : Unary} {g : Value → Except EvalError Value}
    (hmaps : Value.Maps f.parameter.type f.returnType g)
    (h : (Eval.ofExcept (g v)).exec r = (.ok w, s)) : f.signature.HoldsFor [v] w := by
  rw [Eval.exec_ofExcept] at h
  obtain ⟨hv, hw⟩ := hmaps v w (congrArg Prod.fst h)
  exact ⟨hw, fun _ _ => .cons hv .nil⟩

theorem Unary.holdsFor (f : Unary) (h : (f.apply host settings v).exec r = (.ok w, s)) :
    f.signature.HoldsFor [v] w := by
  cases f with
  | length => exact holdsFor_of_maps Value.maps_length h
  | toLower => exact holdsFor_of_maps (Value.maps_mapText _ _) h
  | toUpper => exact holdsFor_of_maps (Value.maps_mapText _ _) h
  | trim => exact holdsFor_of_maps Value.maps_trim h
  | abs => exact holdsFor_of_maps Value.maps_abs h
  | ceil => exact holdsFor_of_maps Value.maps_ceil h
  | floor => exact holdsFor_of_maps Value.maps_floor h
  | round => exact holdsFor_of_maps (Value.maps_round settings.overflow) h
  | sqrt => exact holdsFor_of_maps Value.maps_sqrt h
  | base64Encode => exact holdsFor_of_maps Value.maps_base64Encode h
  | base64Decode => exact holdsFor_of_maps Value.maps_base64Decode h
  | urlEncode => exact holdsFor_of_maps Value.maps_urlEncode h
  | urlDecode => exact holdsFor_of_maps Value.maps_urlDecode h
  | isString => exact holdsFor_of_maps (Value.maps_question Value.isString) h
  | isNumber => exact holdsFor_of_maps (Value.maps_question Value.isNumber) h
  | isArray => exact holdsFor_of_maps (Value.maps_question Value.isArray) h
  | isObject => exact holdsFor_of_maps (Value.maps_question Value.isObject) h
  | string => exact holdsFor_of_maps Value.maps_text h
  | integer => exact holdsFor_of_maps Value.maps_toInteger h
  | float => exact holdsFor_of_maps Value.maps_toFloat h
  | boolean => exact holdsFor_of_maps Value.maps_toBoolean h
  | object => exact holdsFor_of_maps Value.maps_toObject h
  | array => exact holdsFor_of_maps Value.maps_toArray h
  | not => exact holdsFor_of_maps Value.maps_not h
  | registry =>
    obtain ⟨hv, hw⟩ := content_eq_ok h
    exact ⟨hw, fun _ _ => .cons hv .nil⟩
  | xpath => exact ⟨rfl, fun _ hname => absurd rfl hname⟩
  | secret => exact ⟨secretValue_eq_ok h, fun hname => absurd rfl hname⟩

theorem Binary.holdsFor_of_mapsBoth {f : Binary} {p q : Parameter}
    {g : Value → Value → Except EvalError Value} (hparameters : f.parameters = [p, q])
    (hmaps : Value.MapsBoth p.type q.type f.returnType g)
    (h : (Eval.ofExcept (g v w)).exec r = (.ok x, s)) : f.signature.HoldsFor [v, w] x := by
  rw [Eval.exec_ofExcept] at h
  obtain ⟨hv, hw, hx⟩ := hmaps v w x (congrArg Prod.fst h)
  refine ⟨hx, fun _ _ => ?_⟩
  rw [Binary.signature, hparameters]
  exact .cons hv (.cons hw .nil)

/-- The record about a character set changes nothing in what a step gives. -/
theorem exec_of_logCharset {function : String} {m : Eval σ Value}
    (h : (logCharset function v w >>= fun _ => m).exec r = (.ok x, s)) :
    ∃ r', m.exec r' = (.ok x, s) := by
  rw [Eval.exec_bind_eq_ok] at h
  obtain ⟨_, r', _, h⟩ := h
  exact ⟨r', h⟩

theorem Binary.holdsFor (f : Binary) (h : (f.apply host v w).exec r = (.ok x, s)) :
    f.signature.HoldsFor [v, w] x := by
  cases f with
  | substring => exact holdsFor_of_mapsBoth rfl Value.mapsBoth_substringFrom h
  | startsWith => exact holdsFor_of_mapsBoth rfl (Value.mapsBoth_compareText _ _) h
  | endsWith => exact holdsFor_of_mapsBoth rfl (Value.mapsBoth_compareText _ _) h
  | contains => exact holdsFor_of_mapsBoth rfl (Value.mapsBoth_compareText _ _) h
  | split => exact holdsFor_of_mapsBoth rfl Value.mapsBoth_split h
  | pow => exact holdsFor_of_mapsBoth rfl Value.mapsBoth_pow h
  | base64Encode =>
    obtain ⟨r', h⟩ := exec_of_logCharset h
    exact holdsFor_of_mapsBoth rfl Value.mapsBoth_base64Encode h
  | urlEncode =>
    obtain ⟨r', h⟩ := exec_of_logCharset h
    exact holdsFor_of_mapsBoth rfl Value.mapsBoth_urlEncode h
  | registry =>
    obtain ⟨hv, hw, hx⟩ := propertyValue_eq_ok h
    exact ⟨hx, fun _ _ => .cons hv (.cons hw .nil)⟩

theorem Ternary.holdsFor (f : Ternary)
    (h : (f.apply u v w : Eval σ Value).exec r = (.ok x, s)) :
    f.signature.HoldsFor [u, v, w] x := by
  cases f with
  | substring =>
    rw [Ternary.apply, Eval.exec_ofExcept] at h
    obtain ⟨hu, hv, hw, hx⟩ := Value.substringRange_eq_ok (congrArg Prod.fst h)
    exact ⟨hx, fun _ _ => .cons hu (.cons hv (.cons hw .nil))⟩
  | replace =>
    rw [Ternary.apply, Eval.exec_ofExcept] at h
    obtain ⟨hu, hv, hw, hx⟩ := Value.replace_eq_ok (congrArg Prod.fst h)
    exact ⟨hx, fun _ _ => .cons hu (.cons hv (.cons hw .nil))⟩

end Tables

/-! ## Calls -/

theorem Unary.ofName?_name (f : Unary) : Unary.ofName? f.name = some f := by
  cases f <;> rfl

theorem Binary.ofName?_name (f : Binary) : Binary.ofName? f.name = some f := by
  cases f <;> rfl

theorem Ternary.ofName?_name (f : Ternary) : Ternary.ofName? f.name = some f := by
  cases f <;> rfl

theorem Unary.name_ne_exists (f : Unary) : f.name ≠ "exists" := by
  cases f <;> decide

theorem Binary.arity_signature (f : Binary) : f.signature.arity = 2 := by
  cases f <;> rfl

theorem Ternary.arity_signature (f : Ternary) : f.signature.arity = 3 := by
  cases f <;> rfl

/-- Only a signature of `xpath` leaves room for null. -/
theorem name_of_accepts_null :
    ∀ s ∈ Catalogue.unsorted, s.returnType.accepts .null = true → s.name = "xpath" := by
  decide

/-- What a signature says about a call that gives a value. -/
structure Signature.HoldsForCall (s : Signature) (host : Host σ) (es : List Expr) (r : Run σ)
    (w : Value) : Prop where
  result : s.returnType.accepts w
  arguments : s.name ≠ "exists" → ∃ vs u,
    (Expr.evalAll host es).exec (r.logged (.call s.name es.length)) = (.ok vs, u) ∧
    (∀ v ∈ vs, v.isNull = false) ∧
    (s.name ≠ "secret" → s.name ≠ "xpath" →
      List.Forall₂ (fun p v => p.type.accepts v = true) s.parameters vs)

section Calls

variable {host : Host σ} {settings : Settings} {es : List Expr} {r t : Run σ} {w : Value}

/-- A signature holds for direct calls when it holds for the function of its name. -/
theorem Signature.holdsForCall_of_direct {s : Signature} (hdirect : Direct s.name es.length)
    (hbuiltIn : ∀ vs m u, vs.length = es.length → builtIn? host settings s.name vs = some m →
      m.exec u = (.ok w, t) → s.HoldsFor vs w)
    (h : ((Expr.call s.name es settings).eval host).exec r = (.ok w, t)) :
    s.HoldsForCall host es r w := by
  rw [Expr.eval_call_of_direct host s.name settings hdirect, Eval.log_bind_exec,
    Eval.exec_bind_eq_ok] at h
  obtain ⟨vs, u, hvs, h⟩ := h
  have hlen : vs.length = es.length := Expr.length_of_evalAll hvs
  obtain ⟨hnull, m, hm, h⟩ := callValues_eq_ok (hlen ▸ hdirect.1) (hlen ▸ hdirect.2.1) h
  have hholds : s.HoldsFor vs w := hbuiltIn vs m u hlen hm h
  refine ⟨hholds.result, fun _ => ⟨vs, u, hvs, ?_, hholds.arguments⟩⟩
  exact leftmostNull_eq_none (hlen ▸ hdirect.2.1) hnull

theorem Nullary.holdsForCall (f : Nullary) (hcount : es.length = f.signature.arity)
    (h : ((Expr.call f.name es settings).eval host).exec r = (.ok w, t)) :
    f.signature.HoldsForCall host es r w := by
  cases f with
  | now =>
    obtain rfl : es = [] := List.eq_nil_of_length_eq_zero hcount
    rw [Expr.eval_call_nil, Eval.log_bind_exec] at h
    cases h
    exact ⟨rfl, fun _ => ⟨[], _, rfl, by simp, fun _ _ => .nil⟩⟩

theorem SpecialForm.holdsForCall (f : SpecialForm) (hcount : es.length = f.signature.arity)
    (h : ((Expr.call f.name es settings).eval host).exec r = (.ok w, t)) :
    f.signature.HoldsForCall host es r w := by
  cases f with
  | «exists» =>
    obtain ⟨e, rfl⟩ := List.length_eq_one_iff.1 hcount
    refine ⟨?_, fun hname => absurd rfl hname⟩
    rw [SpecialForm.name, Expr.eval_exists, Eval.log_bind_exec] at h
    rcases he : (e.eval host).exec (r.logged (.call "exists" 1)) with ⟨_ | v, s⟩
    · rw [Eval.present_of_error he] at h
      cases h
      rfl
    · rw [Eval.present_of_ok he] at h
      cases h
      rfl

theorem Unary.holdsForCall (f : Unary) (hcount : es.length = f.signature.arity)
    (h : ((Expr.call f.name es settings).eval host).exec r = (.ok w, t)) :
    f.signature.HoldsForCall host es r w := by
  have hone : es.length = 1 := hcount
  refine Signature.holdsForCall_of_direct ⟨by omega, by omega, ?_⟩ ?_ h
  · exact fun hexists => f.name_ne_exists hexists.1
  · intro vs m u hlen hm hw
    obtain ⟨v, rfl⟩ := List.length_eq_one_iff.1 (hlen.trans hone)
    rw [builtIn?, show Unary.ofName? f.signature.name = some f from f.ofName?_name] at hm
    cases hm
    exact f.holdsFor hw

theorem Binary.holdsForCall (f : Binary) (hcount : es.length = f.signature.arity)
    (h : ((Expr.call f.name es settings).eval host).exec r = (.ok w, t)) :
    f.signature.HoldsForCall host es r w := by
  have htwo : es.length = 2 := hcount.trans f.arity_signature
  refine Signature.holdsForCall_of_direct ⟨by omega, by omega, by omega⟩ ?_ h
  intro vs m u hlen hm hw
  obtain ⟨v, v', rfl⟩ := List.length_eq_two.1 (hlen.trans htwo)
  rw [builtIn?, show Binary.ofName? f.signature.name = some f from f.ofName?_name] at hm
  cases hm
  exact f.holdsFor hw

theorem Ternary.holdsForCall (f : Ternary) (hcount : es.length = f.signature.arity)
    (h : ((Expr.call f.name es settings).eval host).exec r = (.ok w, t)) :
    f.signature.HoldsForCall host es r w := by
  have hthree : es.length = 3 := hcount.trans f.arity_signature
  refine Signature.holdsForCall_of_direct ⟨by omega, by omega, by omega⟩ ?_ h
  intro vs m u hlen hm hw
  obtain ⟨v, v', v'', rfl⟩ := List.length_eq_three.1 (hlen.trans hthree)
  rw [builtIn?, show Ternary.ofName? f.signature.name = some f from f.ofName?_name] at hm
  cases hm
  exact f.holdsFor hw

end Calls

/-- The catalogue keeps what it promises. A call under a signature of the catalogue, with as many
arguments, gives values of the type that is returned, and null only when it is an `xpath`. Unless
the argument is not evaluated first, the arguments had values other than null, and these were of the
types of the parameters, except where the function reads the text of any value. -/
theorem the_catalogue_keeps_its_promises (host : Host σ) (settings : Settings) (s : Signature)
    (hs : s ∈ Catalogue.signatures) (es : List Expr) (hcount : es.length = s.arity) (r t : Run σ)
    (w : Value) (h : ((Expr.call s.name es settings).eval host).exec r = (.ok w, t)) :
    s.returnType.accepts w ∧ (w.isNull → s.name = "xpath") ∧
    (s.name ≠ "exists" → ∃ vs u,
      (Expr.evalAll host es).exec (r.logged (.call s.name es.length)) = (.ok vs, u) ∧
      (∀ v ∈ vs, v.isNull = false) ∧
      (s.name ≠ "secret" → s.name ≠ "xpath" →
        List.Forall₂ (fun p v => p.type.accepts v = true) s.parameters vs)) := by
  have hmem : s ∈ Catalogue.unsorted := List.mem_mergeSort.1 hs
  have hholds : s.HoldsForCall host es r w := by
    have htable := hmem
    simp only [Catalogue.unsorted, List.mem_append, List.mem_map] at htable
    rcases htable with (((⟨f, -, rfl⟩ | ⟨f, -, rfl⟩) | ⟨f, -, rfl⟩) | ⟨f, -, rfl⟩) | ⟨f, -, rfl⟩
    · exact f.holdsForCall hcount h
    · exact f.holdsForCall hcount h
    · exact f.holdsForCall hcount h
    · exact f.holdsForCall hcount h
    · exact f.holdsForCall hcount h
  refine ⟨hholds.result, fun hnull => ?_, hholds.arguments⟩
  obtain rfl : w = .null := by
    cases w <;> first | rfl | cases hnull
  exact name_of_accepts_null s hmem hholds.result

/-- A call of `length` that gives a value had a string or an array as its argument. -/
theorem a_call_of_length_keeps_the_promises_of_its_signature :
    let s := Unary.length.signature
    let e := Expr.call s.name [.literal (.string "abc")] .default
    (e.eval (Context.host 0)).exec (Run.start Context.empty) =
        (.ok (.integer 3),
          ((Run.start Context.empty).logged (.call "length" 1)).logged
            (.source "length" "String")) ∧
      s.returnType.accepts (.integer 3) ∧
      List.Forall₂ (fun p v => p.type.accepts v = true) s.parameters [.string "abc"] := by
  intro s e
  have hmem : s ∈ Catalogue.signatures :=
    List.mem_mergeSort.2 (by simp [Catalogue.unsorted, Unary.all, s])
  have hcall : (e.eval (Context.host 0)).exec (Run.start Context.empty) =
      (.ok (.integer 3),
        ((Run.start Context.empty).logged (.call "length" 1)).logged
          (.source "length" "String")) := by
    simp only [e, s]
    rfl
  obtain ⟨hresult, -, harguments⟩ :=
    the_catalogue_keeps_its_promises _ .default s hmem [.literal (.string "abc")] rfl _ _ _ hcall
  obtain ⟨vs, u, hvs, -, htypes⟩ := harguments (by decide)
  cases hvs
  exact ⟨hcall, hresult, htypes (by decide) (by decide)⟩

end Predefined
