-- How the steps of an evaluation run, and what a call is made of. A call is of one of four forms
-- (`call_forms`), and a direct one evaluates its arguments first and goes on with their values
-- (`callValues`). The laws of evaluation follow from these, without another look at the routing.
import Predefined.Expr.Evaluation

namespace Predefined

variable {σ α β : Type}

/-! ## Runs -/

/-- What a step gives, and the run it leaves behind. -/
def Eval.exec (m : Eval σ α) (r : Run σ) : Except EvalError α × Run σ :=
  m.run r

/-- The run with one more record in its log. -/
def Run.logged (r : Run σ) (record : LogRecord) : Run σ :=
  { r with log := r.log.push record }

/-- The run with one more label in its journal. -/
def Run.noted (r : Run σ) (label : String) : Run σ :=
  { r with journal := r.journal.push label }

namespace Eval

@[simp] theorem exec_pure (a : α) (r : Run σ) : (pure a : Eval σ α).exec r = (.ok a, r) := rfl

@[simp] theorem exec_throw (e : EvalError) (r : Run σ) :
    (throw e : Eval σ α).exec r = (.error e, r) := rfl

@[simp] theorem exec_note (label : String) (r : Run σ) :
    (note label).exec r = (.ok (), r.noted label) := rfl

@[simp] theorem exec_ask (look : σ → α × σ) (r : Run σ) :
    (ask look).exec r = (.ok (look r.host).1, { r with host := (look r.host).2 }) := rfl

@[simp] theorem exec_ofExcept (x : Except EvalError α) (r : Run σ) :
    (ofExcept x : Eval σ α).exec r = (x, r) := by
  cases x <;> rfl

@[simp] theorem exec_outcome (m : Eval σ α) (r : Run σ) :
    (outcome m).exec r = (.ok (m.exec r).1, (m.exec r).2) := rfl

theorem ext {m n : Eval σ α} (h : ∀ r, m.exec r = n.exec r) : m = n :=
  funext h

theorem exec_bind (m : Eval σ α) (f : α → Eval σ β) (r : Run σ) :
    (m >>= f).exec r =
      match m.exec r with
      | (.ok a, s) => (f a).exec s
      | (.error e, s) => (.error e, s) := by
  simp only [exec, ExceptT.run, bind, ExceptT.bind, ExceptT.mk, StateT.bind]
  rcases (m r : Except EvalError α × Run σ) with ⟨_ | a, s⟩ <;> rfl

theorem exec_bind_of_ok {m : Eval σ α} {r s : Run σ} {a : α} (h : m.exec r = (.ok a, s))
    (f : α → Eval σ β) : (m >>= f).exec r = (f a).exec s := by
  rw [exec_bind, h]

theorem exec_bind_of_error {m : Eval σ α} {r s : Run σ} {e : EvalError}
    (h : m.exec r = (.error e, s)) (f : α → Eval σ β) : (m >>= f).exec r = (.error e, s) := by
  rw [exec_bind, h]

/-- A sequence of two steps gives a value only when both do. -/
theorem exec_bind_eq_ok {m : Eval σ α} {f : α → Eval σ β} {r t : Run σ} {b : β} :
    (m >>= f).exec r = (.ok b, t) ↔
      ∃ a s, m.exec r = (.ok a, s) ∧ (f a).exec s = (.ok b, t) := by
  rw [exec_bind]
  rcases m.exec r with ⟨_ | a, s⟩
  · simp
  · exact ⟨fun h => ⟨a, s, rfl, h⟩, fun ⟨_, _, h, h'⟩ => by cases h; exact h'⟩

/-- Steps behind a first one need to agree on the values that it gives only. -/
theorem bind_congr_of_ok {m : Eval σ α} {f g : α → Eval σ β}
    (h : ∀ r a s, m.exec r = (.ok a, s) → f a = g a) : m >>= f = m >>= g := by
  refine ext fun r => ?_
  rw [exec_bind, exec_bind]
  rcases hm : m.exec r with ⟨_ | a, s⟩
  · rfl
  · simp only [h r a s hm]

@[simp] theorem log_bind_exec (record : LogRecord) (f : Unit → Eval σ α) (r : Run σ) :
    (log record >>= f).exec r = (f ()).exec (r.logged record) := rfl

theorem ask_bind_exec (look : σ → α × σ) (f : α → Eval σ β) (r : Run σ) :
    (ask look >>= f).exec r = (f (look r.host).1).exec { r with host := (look r.host).2 } := rfl

/-! ## Presence -/

theorem present_of_ok {m : Eval σ Value} {r s : Run σ} {v : Value} (h : m.exec r = (.ok v, s)) :
    (present m).exec r = (.ok (.boolean !v.isNull), s) := by
  rw [present, exec_bind, exec_outcome, h]
  rfl

theorem present_of_error {m : Eval σ Value} {r s : Run σ} {e : EvalError}
    (h : m.exec r = (.error e, s)) :
    (present m).exec r = (.ok (.boolean false), s.logged (.absent e)) := by
  rw [present, exec_bind, exec_outcome, h]
  rfl

/-- A step that logs and gives its result without asking the host. -/
def conclude (records : List LogRecord) (result : Except EvalError α) : Eval σ α := do
  records.forM log
  ofExcept result

end Eval

/-! ## Arguments -/

/-- The role of the first null among the first three values. -/
def leftmostNull (values : List Value) : Option Role :=
  ((values.zip Role.all).find? fun p => p.1.isNull).map (·.2)

theorem forM_checkArgument (name : String) (ps : List (Value × Role)) :
    (ps.forM fun p => checkArgument name p.1 p.2) =
      match (ps.find? fun p => p.1.isNull).map (·.2) with
      | some role => .error (.nullArgument name role)
      | none => .ok () := by
  induction ps with
  | nil => rfl
  | cons p ps ih =>
    rw [List.forM_eq_forM, List.forM_cons]
    by_cases hp : p.1.isNull = true
    · have hcheck : checkArgument name p.1 p.2 = .error (.nullArgument name p.2) := by
        simp [checkArgument, hp]
      simp only [hcheck, List.find?_cons, hp]
      rfl
    · have hcheck : checkArgument name p.1 p.2 = .ok () := by simp [checkArgument, hp]
      simp only [hcheck, List.find?_cons, hp]
      exact ih

theorem checkArguments_eq (name : String) (values : List Value) :
    checkArguments name values =
      match leftmostNull values with
      | some role => .error (.nullArgument name role)
      | none => .ok () :=
  forM_checkArgument name _

theorem Value.isNull_eq_false_iff {v : Value} : v.isNull = false ↔ v ≠ .null := by
  cases v <;> simp [Value.isNull]

/-- A null that has a role is found at its place when no other null stands before it. -/
theorem find?_null_eq_some_iff {values : List Value} {roles : List Role} {role : Role} :
    ((values.zip roles).find? fun p => p.1.isNull).map (·.2) = some role ↔
      ∃ i, roles[i]? = some role ∧ values[i]? = some .null ∧ ∀ v ∈ values.take i, v ≠ .null := by
  induction values generalizing roles with
  | nil => simp
  | cons v values ih =>
    cases roles with
    | nil => simp
    | cons role' roles =>
      by_cases hv : v = .null
      · subst hv
        refine ⟨fun h => ⟨0, by simpa [Value.isNull] using h⟩, ?_⟩
        rintro ⟨i, hrole, -, hfirst⟩
        cases i with
        | zero => simpa [Value.isNull] using hrole
        | succ i => exact absurd rfl (hfirst .null (by simp))
      · rw [List.zip_cons_cons, List.find?_cons, Value.isNull_eq_false_iff.2 hv, ih]
        refine ⟨?_, ?_⟩
        · rintro ⟨i, hrole, hi, hfirst⟩
          exact ⟨i + 1, hrole, hi, by simpa [hv] using hfirst⟩
        · rintro ⟨i, hrole, hi, hfirst⟩
          cases i with
          | zero => exact absurd (by simpa using hi) hv
          | succ i => exact ⟨i, hrole, hi, fun w hw => hfirst w (by simp [hw])⟩

theorem leftmostNull_eq_some_iff {values : List Value} {role : Role} :
    leftmostNull values = some role ↔
      ∃ i, Role.all[i]? = some role ∧ values[i]? = some .null ∧ ∀ v ∈ values.take i, v ≠ .null :=
  find?_null_eq_some_iff

/-- A null behind the third value has no role and is not found. -/
theorem leftmostNull_eq_none_iff {values : List Value} :
    leftmostNull values = none ↔ ∀ v ∈ values.take 3, v ≠ .null := by
  rcases values with _ | ⟨u, _ | ⟨v, _ | ⟨w, rest⟩⟩⟩
  all_goals simp [leftmostNull, Role.all, ← Value.isNull_eq_false_iff]

theorem leftmostNull_eq_none {values : List Value} (h₃ : values.length ≤ 3)
    (h : leftmostNull values = none) : ∀ v ∈ values, v.isNull = false := by
  intro v hv
  rw [leftmostNull_eq_none_iff, List.take_of_length_le h₃] at h
  exact Value.isNull_eq_false_iff.2 (h v hv)

theorem leftmostNull_of_forall {values : List Value} (h : ∀ v ∈ values, v.isNull = false) :
    leftmostNull values = none :=
  leftmostNull_eq_none_iff.2 fun v hv =>
    Value.isNull_eq_false_iff.1 (h v (List.mem_of_mem_take hv))

/-! ## The walk along nodes -/

/-- The nodes give values one after another, each in the run that the one before it leaves. -/
inductive GiveValues (evaluate : α → Eval σ Value) :
    List α → Run σ → List Value → Run σ → Prop where
  | nil {r : Run σ} : GiveValues evaluate [] r [] r
  | cons {node : α} {nodes : List α} {r s t : Run σ} {v : Value} {vs : List Value}
    (value : (evaluate node).exec r = (.ok v, s)) (rest : GiveValues evaluate nodes s vs t) :
    GiveValues evaluate (node :: nodes) r (v :: vs) t

section Walk

variable {evaluate : α → Eval σ Value}

theorem GiveValues.length_eq {nodes : List α} {r s : Run σ} {vs : List Value}
    (h : GiveValues evaluate nodes r vs s) : vs.length = nodes.length := by
  induction h with
  | nil => rfl
  | cons _ _ ih => rw [List.length_cons, List.length_cons, ih]

theorem GiveValues.exec_mapM {nodes : List α} {r s : Run σ} {vs : List Value}
    (h : GiveValues evaluate nodes r vs s) :
    (nodes.mapM evaluate).exec r = (.ok vs, s) := by
  induction h with
  | nil => rw [List.mapM_nil, Eval.exec_pure]
  | cons hv _ ih =>
    rw [List.mapM_cons, Eval.exec_bind_of_ok hv, Eval.exec_bind_of_ok ih, Eval.exec_pure]

/-- The first node that fails ends the walk, whatever stands behind it. -/
theorem GiveValues.exec_mapM_of_error {before : List α} {node : α} {r s t : Run σ}
    {vs : List Value} {e : EvalError} (h : GiveValues evaluate before r vs t)
    (hnode : (evaluate node).exec t = (.error e, s)) (after : List α) :
    ((before ++ node :: after).mapM evaluate).exec r = (.error e, s) := by
  induction h with
  | nil => rw [List.nil_append, List.mapM_cons, Eval.exec_bind_of_error hnode]
  | cons hv _ ih =>
    rw [List.cons_append, List.mapM_cons, Eval.exec_bind_of_ok hv]
    exact Eval.exec_bind_of_error (ih hnode) _

/-- A walk comes to its end, or to a first node that fails. -/
theorem give_values_or_fail (evaluate : α → Eval σ Value) (nodes : List α) (r : Run σ) :
    (∃ vs s, GiveValues evaluate nodes r vs s) ∨
      ∃ before node after vs t e s, nodes = before ++ node :: after ∧
        GiveValues evaluate before r vs t ∧ (evaluate node).exec t = (.error e, s) := by
  induction nodes generalizing r with
  | nil => exact Or.inl ⟨[], r, .nil⟩
  | cons node nodes ih =>
    rcases hnode : (evaluate node).exec r with ⟨e | v, s⟩
    · exact Or.inr ⟨[], node, nodes, [], r, e, s, rfl, .nil, hnode⟩
    · rcases ih s with ⟨vs, t, hvs⟩ | ⟨before, n, after, vs, t, e, t', rfl, hvs, hn⟩
      · exact Or.inl ⟨v :: vs, t, .cons hnode hvs⟩
      · exact Or.inr ⟨node :: before, n, after, v :: vs, t, e, t', rfl, .cons hnode hvs, hn⟩

end Walk

namespace Expr

theorem evalAll_eq_mapM (host : Host σ) (es : List Expr) :
    evalAll host es = es.mapM (eval host) := by
  induction es with
  | nil => rw [evalAll, List.mapM_nil]
  | cons e es ih => rw [evalAll, List.mapM_cons, ih]

theorem evalAll_eq_ok_iff {host : Host σ} {es : List Expr} {r s : Run σ} {vs : List Value} :
    (evalAll host es).exec r = (.ok vs, s) ↔ GiveValues (eval host) es r vs s := by
  rw [evalAll_eq_mapM]
  refine ⟨fun h => ?_, GiveValues.exec_mapM⟩
  rcases give_values_or_fail (eval host) es r with
    ⟨vs', s', hvs⟩ | ⟨before, e, after, vs', t, err, s', rfl, hvs, he⟩
  · rw [hvs.exec_mapM] at h
    cases h
    exact hvs
  · rw [hvs.exec_mapM_of_error he] at h
    cases h

theorem length_of_evalAll {host : Host σ} {es : List Expr} {r s : Run σ} {vs : List Value}
    (h : (evalAll host es).exec r = (.ok vs, s)) : vs.length = es.length :=
  (evalAll_eq_ok_iff.1 h).length_eq

end Expr

/-! ## Calls with the values of their arguments -/

/-- What a call of one, two or three arguments does once they have values: the check for null, the
search for the name, and the function. -/
def callValues (host : Host σ) (settings : Settings) (name : String) (values : List Value) :
    Eval σ Value := do
  Eval.ofExcept (checkArguments name values)
  match values with
  | [v] =>
    match Unary.ofName? name with
    | some f =>
      Eval.log (.source f.name v.typeName)
      f.apply host settings v
    | none => throw (.unknownFunction name .unary)
  | [v, w] =>
    match Binary.ofName? name with
    | some f => f.apply host v w
    | none => throw (.unknownFunction name .binary)
  | [u, v, w] =>
    match Ternary.ofName? name with
    | some f => f.apply u v w
    | none => throw (.unknownFunction name .ternary)
  | _ => throw (.argumentCount name values.length)

/-- The function of a name for so many values, applied to them. -/
def builtIn? (host : Host σ) (settings : Settings) (name : String) :
    (values : List Value) → Option (Eval σ Value)
  | [v] => (Unary.ofName? name).map fun f =>
    Eval.log (.source f.name v.typeName) >>= fun _ => f.apply host settings v
  | [v, w] => (Binary.ofName? name).map fun f => f.apply host v w
  | [u, v, w] => (Ternary.ofName? name).map fun f => f.apply u v w
  | _ => none

theorem exists_arity {n : Nat} (h : n ≤ 3) : ∃ arity, Arity.ofCount? n = some arity := by
  match n, h with
  | 0, _ | 1, _ | 2, _ | 3, _ => exact ⟨_, rfl⟩

theorem callValues_of_null (host : Host σ) (settings : Settings) (name : String)
    {values : List Value} {role : Role} (h : leftmostNull values = some role) :
    callValues host settings name values = throw (.nullArgument name role) := by
  refine Eval.ext fun r => ?_
  simp only [callValues, checkArguments_eq, h]
  rfl

/-- Once the null check has passed, the name is looked up, and the function decides the rest. -/
theorem callValues_of_present (host : Host σ) (settings : Settings) (name : String)
    {values : List Value} {arity : Arity} (h₀ : values ≠ [])
    (harity : Arity.ofCount? values.length = some arity) (hnull : leftmostNull values = none) :
    callValues host settings name values =
      match builtIn? host settings name values with
      | some m => m
      | none => throw (.unknownFunction name arity) := by
  simp only [callValues, checkArguments_eq, hnull, Eval.ofExcept, pure_bind]
  match values with
  | [] => exact absurd rfl h₀
  | [v] =>
    cases harity
    rcases hf : Unary.ofName? name with _ | f <;> simp [builtIn?, hf]
  | [v, w] =>
    cases harity
    rcases hf : Binary.ofName? name with _ | f <;> simp [builtIn?, hf]
  | [u, v, w] =>
    cases harity
    rcases hf : Ternary.ofName? name with _ | f <;> simp [builtIn?, hf]
  | _ :: _ :: _ :: _ :: _ => cases harity

/-- A call gives a value when no argument is null, its name is known, and the function gives it. -/
theorem callValues_eq_ok {host : Host σ} {settings : Settings} {name : String}
    {values : List Value} {r s : Run σ} {w : Value} (h₁ : 1 ≤ values.length)
    (h₃ : values.length ≤ 3) (h : (callValues host settings name values).exec r = (.ok w, s)) :
    leftmostNull values = none ∧
      ∃ m, builtIn? host settings name values = some m ∧ m.exec r = (.ok w, s) := by
  obtain ⟨arity, harity⟩ := exists_arity h₃
  rcases hnull : leftmostNull values with _ | role
  · rw [callValues_of_present host settings name (List.ne_nil_of_length_pos h₁) harity hnull] at h
    refine ⟨rfl, ?_⟩
    rcases hbuiltIn : builtIn? host settings name values with _ | m
    · rw [hbuiltIn] at h
      cases h
    · rw [hbuiltIn] at h
      exact ⟨m, rfl, h⟩
  · rw [callValues_of_null host settings name hnull] at h
    cases h

section Buckets

variable (host : Host σ) (settings : Settings) (name : String) {m : Eval σ (List Value)}

/-- When the arguments are as many as are asked for, a call takes their values and goes on. -/
theorem argumentValues_bind {n : Nat} {f : Vector Value n → Eval σ Value}
    (h : ∀ r vs s, m.exec r = (.ok vs, s) → vs.length = n)
    (hf : ∀ values : Vector Value n,
      (Eval.ofExcept (checkArguments name values.toList) >>= fun _ => f values) =
        callValues host settings name values.toList) :
    argumentValues n name m >>= f = m >>= callValues host settings name := by
  rw [argumentValues, bind_assoc]
  refine Eval.bind_congr_of_ok fun r vs s hvs => ?_
  have hlen : vs.length = n := h r vs s hvs
  have hcall : (Eval.ofExcept (checkArguments name vs) >>= fun _ => f ⟨vs.toArray, hlen⟩) =
      callValues host settings name vs := hf ⟨vs.toArray, hlen⟩
  rw [← hcall, bind_assoc]
  refine bind_congr fun _ => ?_
  rw [dif_pos hlen, pure_bind]

theorem callUnary_eq (h : ∀ r vs s, m.exec r = (.ok vs, s) → vs.length = 1) :
    callUnary host settings name m = m >>= callValues host settings name :=
  argumentValues_bind host settings name h fun values =>
    match values with
    | ⟨⟨[_]⟩, _⟩ => rfl

theorem callBinary_eq (h : ∀ r vs s, m.exec r = (.ok vs, s) → vs.length = 2) :
    callBinary host name m = m >>= callValues host settings name :=
  argumentValues_bind host settings name h fun values =>
    match values with
    | ⟨⟨[_, _]⟩, _⟩ => rfl

theorem callTernary_eq (h : ∀ r vs s, m.exec r = (.ok vs, s) → vs.length = 3) :
    callTernary name m = m >>= callValues host settings name :=
  argumentValues_bind host settings name h fun values =>
    match values with
    | ⟨⟨[_, _, _]⟩, _⟩ => rfl

end Buckets

/-! ## The forms of a call -/

/-- The arguments of a call have their values before the name is looked up: there are one, two or
three of them, and it is no `exists` of one argument. -/
def Direct (name : String) (count : Nat) : Prop :=
  1 ≤ count ∧ count ≤ 3 ∧ ¬ (name = "exists" ∧ count = 1)

/-- Every call is of one of four forms: without arguments, an `exists` of one argument, a direct
one, or one with too many arguments. -/
theorem call_forms (name : String) (es : List Expr) :
    es = [] ∨ (name = "exists" ∧ ∃ e, es = [e]) ∨ Direct name es.length ∨ 3 < es.length := by
  by_cases h : name = "exists" ∧ es.length = 1
  · exact Or.inr (Or.inl ⟨h.1, List.length_eq_one_iff.1 h.2⟩)
  · rcases Nat.eq_zero_or_pos es.length with h₀ | h₀
    · exact Or.inl (List.eq_nil_of_length_eq_zero h₀)
    · rcases Nat.lt_or_ge 3 es.length with h₃ | h₃
      · exact Or.inr (Or.inr (Or.inr h₃))
      · exact Or.inr (Or.inr (Or.inl ⟨h₀, h₃, h⟩))

theorem specialForm_ofName? {name : String} (h : name ≠ "exists") :
    SpecialForm.ofName? name = none := by
  simp [SpecialForm.ofName?, SpecialForm.all, SpecialForm.name, Ne.symm h]

namespace Expr

variable (host : Host σ) (name : String) (settings : Settings)

theorem eval_call_nil :
    eval host (.call name [] settings) =
      (Eval.log (.call name 0) >>= fun _ => callNullary host name) :=
  rfl

theorem eval_exists (e : Expr) :
    eval host (.call "exists" [e] settings) =
      (Eval.log (.call "exists" 1) >>= fun _ => Eval.present (eval host e)) := by
  have hform : (do let values ← evalAll host [e]; pure (values.headD .null)) = eval host e := by
    simp [evalAll]
  rw [← hform]
  rfl

theorem eval_call_of_direct {es : List Expr} (h : Direct name es.length) :
    eval host (.call name es settings) =
      (Eval.log (.call name es.length) >>= fun _ =>
        evalAll host es >>= callValues host settings name) := by
  have hlen : ∀ r vs s, (evalAll host es).exec r = (.ok vs, s) → vs.length = es.length :=
    fun _ _ _ => length_of_evalAll
  obtain ⟨h₁, h₃, hexists⟩ := h
  rw [eval, Predefined.call]
  congr 1
  funext _
  generalize es.length = n at *
  match n with
  | 1 =>
    have hname : name ≠ "exists" := fun he => hexists ⟨he, rfl⟩
    simp only [Arity.ofCount?, specialForm_ofName? hname]
    exact callUnary_eq host settings name hlen
  | 2 => exact callBinary_eq host settings name hlen
  | 3 => exact callTernary_eq host settings name hlen

theorem eval_call_of_three_lt {es : List Expr} (h : 3 < es.length) :
    eval host (.call name es settings) =
      (Eval.log (.call name es.length) >>= fun _ => throw (.argumentCount name es.length)) := by
  have harity : Arity.ofCount? es.length = none := by
    match hn : es.length with
    | 0 | 1 | 2 | 3 => omega
    | _ + 4 => rfl
  rw [eval, Predefined.call, harity]

end Expr

end Predefined
