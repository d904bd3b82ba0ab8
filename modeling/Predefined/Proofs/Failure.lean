-- Where a failure comes from. A node fails on its own account, or one of the nodes right beneath it
-- fails and hands its failure up as it is. The two never meet, and of the nodes beneath at most one
-- fails, since the first failure ends the walk. So from a node that fails there is one way down,
-- which ends at the origin. Nothing is handed up through an `exists` of one argument.
import Predefined.Context
import Predefined.Proofs.Steps

namespace Predefined

variable {σ : Type}

/-! ## Rejected calls -/

/-- Why a call is rejected once its arguments have values. -/
inductive Rejected (host : Host σ) (settings : Settings) (name : String) (values : List Value)
    (r : Run σ) : EvalError → Prop where
  /-- One of the values is null. -/
  | null {role : Role} (h : leftmostNull values = some role) :
    Rejected host settings name values r (.nullArgument name role)
  /-- No function of the name takes so many arguments. -/
  | unknown {arity : Arity} (present : leftmostNull values = none)
    (count : Arity.ofCount? values.length = some arity)
    (h : builtIn? host settings name values = none) :
    Rejected host settings name values r (.unknownFunction name arity)
  /-- The function fails. -/
  | builtIn {m : Eval σ Value} {err : EvalError} (present : leftmostNull values = none)
    (known : builtIn? host settings name values = some m) (h : (m.exec r).1 = .error err) :
    Rejected host settings name values r err

theorem callValues_fails_iff (host : Host σ) (settings : Settings) (name : String)
    {values : List Value} (r : Run σ) (err : EvalError) (h₁ : 1 ≤ values.length)
    (h₃ : values.length ≤ 3) :
    ((callValues host settings name values).exec r).1 = .error err ↔
      Rejected host settings name values r err := by
  obtain ⟨arity, harity⟩ := exists_arity h₃
  have h₀ : values ≠ [] := List.ne_nil_of_length_pos h₁
  rcases hnull : leftmostNull values with _ | role
  · rw [callValues_of_present host settings name h₀ harity hnull]
    rcases hbuiltIn : builtIn? host settings name values with _ | m
    · refine ⟨fun h => ?_, fun h => ?_⟩
      · cases h
        exact .unknown hnull harity hbuiltIn
      · cases h with
        | null hrole => rw [hnull] at hrole; cases hrole
        | unknown _ hcount _ =>
          rw [harity] at hcount
          cases hcount
          rfl
        | builtIn _ hknown _ => rw [hbuiltIn] at hknown; cases hknown
    · refine ⟨fun h => .builtIn hnull hbuiltIn h, fun h => ?_⟩
      cases h with
      | null hrole => rw [hnull] at hrole; cases hrole
      | unknown _ _ hnone => rw [hbuiltIn] at hnone; cases hnone
      | builtIn _ hknown h =>
        rw [hbuiltIn] at hknown
        cases hknown
        exact h
  · rw [callValues_of_null host settings name hnull, Eval.exec_throw]
    refine ⟨fun h => ?_, fun h => ?_⟩
    · cases h
      exact .null hnull
    · cases h with
      | null hrole =>
        rw [hnull] at hrole
        cases hrole
        rfl
      | unknown hpresent _ _ => rw [hnull] at hpresent; cases hpresent
      | builtIn hpresent _ _ => rw [hnull] at hpresent; cases hpresent

namespace Expr

/-- Evaluating the expression in a run fails with an error. -/
def Fails (host : Host σ) (e : Expr) (r : Run σ) (err : EvalError) : Prop :=
  ((e.eval host).exec r).1 = .error err

/-! ## Arguments -/

/-- The walk along a list of arguments comes to the one at a place: all before it give values. -/
inductive ComesTo (host : Host σ) : List Expr → Run σ → Nat → Expr → Run σ → Prop where
  | first {e : Expr} {es : List Expr} {r : Run σ} : ComesTo host (e :: es) r 0 e r
  | later {e n : Expr} {es : List Expr} {r r' s : Run σ} {v : Value} {i : Nat}
    (value : (e.eval host).exec r = (.ok v, r')) (rest : ComesTo host es r' i n s) :
    ComesTo host (e :: es) r (i + 1) n s

variable {host : Host σ}

theorem ComesTo.sizeOf_lt {es : List Expr} {r s : Run σ} {i : Nat} {n : Expr}
    (h : ComesTo host es r i n s) : sizeOf n < sizeOf es := by
  induction h with
  | first => simp only [List.cons.sizeOf_spec]; omega
  | later _ _ ih => simp only [List.cons.sizeOf_spec]; omega

theorem comesTo_append {before : List Expr} {r t : Run σ} {vs : List Value}
    (h : (evalAll host before).exec r = (.ok vs, t)) (e : Expr) (after : List Expr) :
    ComesTo host (before ++ e :: after) r before.length e t := by
  have hvalues := evalAll_eq_ok_iff.1 h
  clear h
  induction hvalues with
  | nil => exact .first
  | cons hv _ ih => exact .later hv ih

theorem ComesTo.exists_giveValues {es : List Expr} {r s : Run σ} {i : Nat} {n : Expr}
    (h : ComesTo host es r i n s) :
    ∃ before after vs, es = before ++ n :: after ∧ GiveValues (eval host) before r vs s := by
  induction h with
  | first => exact ⟨[], _, [], rfl, .nil⟩
  | later hv _ ih =>
    obtain ⟨before, after, vs, rfl, hvs⟩ := ih
    exact ⟨_ :: before, after, _ :: vs, rfl, .cons hv hvs⟩

/-- Arguments fail when the walk comes to one that fails, with the failure of that one. -/
theorem evalAll_fails_iff {es : List Expr} {r : Run σ} {err : EvalError} :
    ((evalAll host es).exec r).1 = .error err ↔
      ∃ i n s, ComesTo host es r i n s ∧ n.Fails host s err := by
  refine ⟨fun h => ?_, ?_⟩
  · rcases give_values_or_fail (eval host) es r with
      ⟨vs, s, hvs⟩ | ⟨before, n, after, vs, t, err', s, rfl, hvs, hn⟩
    · rw [evalAll_eq_ok_iff.2 hvs] at h
      cases h
    · rw [evalAll_eq_mapM, hvs.exec_mapM_of_error hn] at h
      cases h
      exact ⟨_, n, t, comesTo_append (evalAll_eq_ok_iff.2 hvs) n after, congrArg Prod.fst hn⟩
  · rintro ⟨i, n, s, hcomes, hfails⟩
    obtain ⟨before, after, vs, rfl, hvs⟩ := hcomes.exists_giveValues
    rw [evalAll_eq_mapM, hvs.exec_mapM_of_error (Prod.ext hfails rfl)]

/-- The walk comes to one failing argument only. -/
theorem ComesTo.unique {es : List Expr} {r s s' : Run σ} {i i' : Nat} {n n' : Expr}
    {err err' : EvalError} (h : ComesTo host es r i n s) (hn : n.Fails host s err)
    (h' : ComesTo host es r i' n' s') (hn' : n'.Fails host s' err') :
    i = i' ∧ n = n' ∧ s = s' := by
  induction h generalizing i' with
  | first =>
    cases h' with
    | first => exact ⟨rfl, rfl, rfl⟩
    | later hv _ => rw [Fails, hv] at hn; cases hn
  | later hv _ ih =>
    cases h' with
    | first => rw [Fails, hv] at hn'; cases hn'
    | later hv' hrest' =>
      rw [hv] at hv'
      cases hv'
      obtain ⟨rfl, rfl, rfl⟩ := ih hn hrest'
      exact ⟨rfl, rfl, rfl⟩

/-! ## One step down -/

/-- The evaluation of a node goes down to one right beneath it: to the inner node of a recorded one,
or to an argument of a direct call. -/
inductive Descends (host : Host σ) : Expr → Run σ → Nat → Expr → Run σ → Prop where
  | inner {label : String} {inner : Expr} {r : Run σ} :
    Descends host (recorded label inner) r 0 inner (r.noted label)
  | argument {name : String} {es : List Expr} {settings : Settings} {r s : Run σ} {i : Nat}
    {n : Expr} (direct : Direct name es.length)
    (walk : ComesTo host es (r.logged (.call name es.length)) i n s) :
    Descends host (call name es settings) r i n s

/-- A node fails on its own account: everything right beneath it that is evaluated gives a value. -/
inductive FailsItself (host : Host σ) : Expr → Run σ → EvalError → Prop where
  | failing {text : String} {r : Run σ} : FailsItself host (failing text) r (.message text)
  | noArguments {name : String} {settings : Settings} {r : Run σ}
    (unknown : Nullary.ofName? name = none) :
    FailsItself host (call name [] settings) r (.unknownFunction name .nullary)
  | tooManyArguments {name : String} {es : List Expr} {settings : Settings} {r : Run σ}
    (count : 3 < es.length) :
    FailsItself host (call name es settings) r (.argumentCount name es.length)
  | rejected {name : String} {es : List Expr} {settings : Settings} {r s : Run σ}
    {vs : List Value} {err : EvalError} (direct : Direct name es.length)
    (values : (evalAll host es).exec (r.logged (.call name es.length)) = (.ok vs, s))
    (h : Rejected host settings name vs s err) :
    FailsItself host (call name es settings) r err

theorem Descends.sizeOf_lt {e n : Expr} {r s : Run σ} {i : Nat} (h : Descends host e r i n s) :
    sizeOf n < sizeOf e := by
  cases h with
  | inner => simp only [recorded.sizeOf_spec]; omega
  | argument _ hwalk =>
    have hlt := hwalk.sizeOf_lt
    simp only [call.sizeOf_spec]
    omega

/-- A direct call fails with the failure of an argument, or it is rejected. -/
theorem call_fails_iff {name : String} {es : List Expr} {settings : Settings} {r : Run σ}
    {err : EvalError} (h : Direct name es.length) :
    (call name es settings).Fails host r err ↔
      (∃ vs s, (evalAll host es).exec (r.logged (.call name es.length)) = (.ok vs, s) ∧
        Rejected host settings name vs s err) ∨
      ((evalAll host es).exec (r.logged (.call name es.length))).1 = .error err := by
  rw [Fails, eval_call_of_direct host name settings h, Eval.log_bind_exec]
  rcases hes : (evalAll host es).exec (r.logged (.call name es.length)) with ⟨err' | vs, s⟩
  · rw [Eval.exec_bind_of_error hes]
    refine ⟨fun h' => Or.inr ?_, ?_⟩
    · cases h'
      rfl
    · rintro (⟨_, _, hvs, _⟩ | h')
      · cases hvs
      · cases h'
        rfl
  · rw [Eval.exec_bind_of_ok hes]
    have hlen : vs.length = es.length := length_of_evalAll hes
    rw [callValues_fails_iff host settings name s err (hlen ▸ h.1) (hlen ▸ h.2.1)]
    refine ⟨fun h' => Or.inl ⟨vs, s, rfl, h'⟩, ?_⟩
    rintro (⟨_, _, hvs, h'⟩ | h')
    · cases hvs
      exact h'
    · cases h'

theorem call_nil_fails_iff {name : String} {settings : Settings} {r : Run σ} {err : EvalError} :
    (call name [] settings).Fails host r err ↔
      Nullary.ofName? name = none ∧ err = .unknownFunction name .nullary := by
  rw [Fails, eval_call_nil, Eval.log_bind_exec, callNullary]
  rcases hf : Nullary.ofName? name with _ | f
  · simp [eq_comm]
  · cases f with
    | now => simp [Nullary.apply]

theorem not_fails_exists {e : Expr} {settings : Settings} {r : Run σ} {err : EvalError} :
    ¬ (call "exists" [e] settings).Fails host r err := by
  rw [Fails, eval_exists, Eval.log_bind_exec]
  rcases he : (e.eval host).exec (r.logged (.call "exists" 1)) with ⟨_ | v, s⟩
  · rw [Eval.present_of_error he]
    simp
  · rw [Eval.present_of_ok he]
    simp

theorem call_fails_of_three_lt_iff {name : String} {es : List Expr} {settings : Settings}
    {r : Run σ} {err : EvalError} (h : 3 < es.length) :
    (call name es settings).Fails host r err ↔ err = .argumentCount name es.length := by
  rw [Fails, eval_call_of_three_lt _ name settings h, Eval.log_bind_exec, Eval.exec_throw]
  simp [eq_comm]

theorem not_descends {name : String} {es : List Expr} {settings : Settings} {r s : Run σ} {i : Nat}
    {n : Expr} (h : ¬ Direct name es.length) : ¬ Descends host (call name es settings) r i n s := by
  intro hdown
  cases hdown with
  | argument hdirect _ => exact h hdirect

/-! ### On its own account -/

theorem failsItself_nil_iff {name : String} {settings : Settings} {r : Run σ} {err : EvalError} :
    FailsItself host (call name [] settings) r err ↔
      Nullary.ofName? name = none ∧ err = .unknownFunction name .nullary := by
  refine ⟨fun h => ?_, ?_⟩
  · cases h with
    | noArguments hunknown => exact ⟨hunknown, rfl⟩
    | tooManyArguments hcount => simp at hcount
    | rejected hdirect _ _ => exact absurd hdirect.1 (by simp)
  · rintro ⟨hunknown, rfl⟩
    exact .noArguments hunknown

theorem not_failsItself_exists {e : Expr} {settings : Settings} {r : Run σ} {err : EvalError} :
    ¬ FailsItself host (call "exists" [e] settings) r err := by
  intro h
  cases h with
  | tooManyArguments hcount => simp at hcount
  | rejected hdirect _ _ => exact hdirect.2.2 ⟨rfl, rfl⟩

theorem failsItself_of_three_lt_iff {name : String} {es : List Expr} {settings : Settings}
    {r : Run σ} {err : EvalError} (h : 3 < es.length) :
    FailsItself host (call name es settings) r err ↔ err = .argumentCount name es.length := by
  refine ⟨fun hself => ?_, ?_⟩
  · cases hself with
    | noArguments _ => simp at h
    | tooManyArguments _ => rfl
    | rejected hdirect _ _ => exact absurd hdirect.2.1 (by omega)
  · rintro rfl
    exact .tooManyArguments h

theorem failsItself_of_direct_iff {name : String} {es : List Expr} {settings : Settings}
    {r : Run σ} {err : EvalError} (h : Direct name es.length) :
    FailsItself host (call name es settings) r err ↔
      ∃ vs s, (evalAll host es).exec (r.logged (.call name es.length)) = (.ok vs, s) ∧
        Rejected host settings name vs s err := by
  refine ⟨fun hself => ?_, ?_⟩
  · cases hself with
    | noArguments _ => exact absurd h.1 (by simp)
    | tooManyArguments hcount => exact absurd h.2.1 (by omega)
    | rejected _ hvs hrejected => exact ⟨_, _, hvs, hrejected⟩
  · rintro ⟨vs, s, hvs, hrejected⟩
    exact .rejected h hvs hrejected

/-- A node fails on its own account, or with the failure of a node right beneath it. -/
theorem fails_iff (host : Host σ) (e : Expr) (r : Run σ) (err : EvalError) :
    e.Fails host r err ↔
      e.FailsItself host r err ∨ ∃ i n s, Descends host e r i n s ∧ n.Fails host s err := by
  match e with
  | literal v =>
    refine ⟨fun h => ?_, ?_⟩
    · cases h
    · rintro (h | ⟨_, _, _, h, _⟩) <;> cases h
  | failing text =>
    refine ⟨fun h => ?_, ?_⟩
    · cases h
      exact Or.inl .failing
    · rintro (h | ⟨_, _, _, h, _⟩) <;> cases h
      rfl
  | recorded label inner =>
    refine ⟨fun h => Or.inr ⟨0, inner, r.noted label, .inner, h⟩, ?_⟩
    rintro (h | ⟨_, _, _, h, hfails⟩) <;> cases h
    exact hfails
  | call name es settings =>
    rcases call_forms name es with rfl | ⟨rfl, e, rfl⟩ | hdirect | hmany
    · have hdown : ¬ Direct name ([] : List Expr).length := fun h => absurd h.1 (by simp)
      simp only [call_nil_fails_iff, failsItself_nil_iff, not_descends hdown, false_and,
        exists_false, or_false]
    · have hdown : ¬ Direct "exists" [e].length := fun h => h.2.2 ⟨rfl, rfl⟩
      simp only [not_fails_exists, not_failsItself_exists, not_descends hdown, false_and,
        exists_false, or_false]
    · rw [call_fails_iff hdirect, failsItself_of_direct_iff hdirect, evalAll_fails_iff]
      refine or_congr Iff.rfl ⟨?_, ?_⟩
      · rintro ⟨i, n, s, hwalk, hfails⟩
        exact ⟨i, n, s, .argument hdirect hwalk, hfails⟩
      · rintro ⟨i, n, s, hdown, hfails⟩
        cases hdown with
        | argument _ hwalk => exact ⟨i, n, s, hwalk, hfails⟩
    · have hdown : ¬ Direct name es.length := fun h => absurd h.2.1 (by omega)
      simp only [call_fails_of_three_lt_iff hmany, failsItself_of_three_lt_iff hmany,
        not_descends hdown, false_and, exists_false, or_false]

/-- A node above a failing one does not fail on its own account. -/
theorem Descends.not_failsItself {e n : Expr} {r s : Run σ} {i : Nat} {err err' : EvalError}
    (h : Descends host e r i n s) (hn : n.Fails host s err) : ¬ e.FailsItself host r err' := by
  cases h with
  | inner => intro hself; cases hself
  | argument hdirect hwalk =>
    rw [failsItself_of_direct_iff hdirect]
    rintro ⟨vs, s', hvs, _⟩
    have hes := evalAll_fails_iff.2 ⟨i, n, s, hwalk, hn⟩
    rw [hvs] at hes
    cases hes

/-- Of the nodes right beneath one, at most one fails. -/
theorem Descends.unique {e n n' : Expr} {r s s' : Run σ} {i i' : Nat} {err err' : EvalError}
    (h : Descends host e r i n s) (hn : n.Fails host s err) (h' : Descends host e r i' n' s')
    (hn' : n'.Fails host s' err') : i = i' ∧ n = n' ∧ s = s' := by
  cases h with
  | inner =>
    cases h' with
    | inner => exact ⟨rfl, rfl, rfl⟩
  | argument _ hwalk =>
    cases h' with
    | argument _ hwalk' => exact hwalk.unique hn hwalk' hn'

/-! ## The way down -/

/-- The way from a node down to another one, by the places of the nodes on it. -/
inductive Reaches (host : Host σ) : Expr → Run σ → List Nat → Expr → Run σ → Prop where
  | here {e : Expr} {r : Run σ} : Reaches host e r [] e r
  | down {e n n' : Expr} {r s s' : Run σ} {i : Nat} {path : List Nat}
    (step : Descends host e r i n s) (rest : Reaches host n s path n' s') :
    Reaches host e r (i :: path) n' s'

theorem Reaches.fails {e n : Expr} {r s : Run σ} {path : List Nat} {err : EvalError}
    (h : Reaches host e r path n s) (hn : n.FailsItself host s err) : e.Fails host r err := by
  induction h with
  | here => exact (fails_iff host _ _ err).2 (Or.inl hn)
  | down hstep _ ih => exact (fails_iff host _ _ err).2 (Or.inr ⟨_, _, _, hstep, ih hn⟩)

theorem reaches_of_fails (host : Host σ) (e : Expr) (r : Run σ) (err : EvalError)
    (h : e.Fails host r err) :
    ∃ path n s, Reaches host e r path n s ∧ n.FailsItself host s err := by
  rcases (fails_iff host e r err).1 h with hself | ⟨i, n, s, hstep, hn⟩
  · exact ⟨[], e, r, .here, hself⟩
  · obtain ⟨path, n', s', hrest, hself⟩ := reaches_of_fails host n s err hn
    exact ⟨i :: path, n', s', .down hstep hrest, hself⟩
termination_by sizeOf e
decreasing_by exact hstep.sizeOf_lt

theorem Reaches.unique {e n n' : Expr} {r s s' : Run σ} {path path' : List Nat}
    {err err' : EvalError} (h : Reaches host e r path n s) (hn : n.FailsItself host s err)
    (h' : Reaches host e r path' n' s') (hn' : n'.FailsItself host s' err') :
    path = path' ∧ n = n' ∧ s = s' := by
  -- Along both ways at once: they take the same step down, as only one node beneath fails, and
  -- neither ends before the other, as a node above a failing one does not fail on its own account.
  induction h generalizing path' with
  | here =>
    cases h' with
    | here => exact ⟨rfl, rfl, rfl⟩
    | down hstep hrest => exact absurd hn (hstep.not_failsItself (hrest.fails hn'))
  | down hstep hrest ih =>
    cases h' with
    | here => exact absurd hn' (hstep.not_failsItself (hrest.fails hn))
    | down hstep' hrest' =>
      obtain ⟨rfl, rfl, rfl⟩ := hstep.unique (hrest.fails hn) hstep' (hrest'.fails hn')
      obtain ⟨rfl, rfl, rfl⟩ := ih hn hrest'
      exact ⟨rfl, rfl, rfl⟩

/-- A failure has exactly one origin and is never altered. An expression fails with an error when
there is a way down to a node that fails with that error on its own account, past arguments that
give values, null or not; there is one such way at most. An argument that fails hands its failure to
the call, whatever the values before it are and whether or not the name is known. -/
theorem a_failure_has_exactly_one_origin (host : Host σ) (e : Expr) (r : Run σ) :
    (∀ err, ((e.eval host).exec r).1 = .error err ↔
      ∃ path n s, Reaches host e r path n s ∧ n.FailsItself host s err) ∧
    (∀ path n s err path' n' s' err',
      Reaches host e r path n s → n.FailsItself host s err →
      Reaches host e r path' n' s' → n'.FailsItself host s' err' →
      path = path' ∧ n = n' ∧ s = s' ∧ err = err') ∧
    (∀ name before after settings r' vs err, Direct name (before ++ e :: after).length →
      (evalAll host before).exec (r'.logged (.call name (before ++ e :: after).length)) =
        (.ok vs, r) →
      ((e.eval host).exec r).1 = .error err →
      (((call name (before ++ e :: after) settings).eval host).exec r').1 = .error err) := by
  refine ⟨fun err => ⟨reaches_of_fails host e r err, ?_⟩, ?_, ?_⟩
  · rintro ⟨path, n, s, hreaches, hself⟩
    exact hreaches.fails hself
  · intro path n s err path' n' s' err' hreaches hself hreaches' hself'
    obtain ⟨rfl, rfl, rfl⟩ := hreaches.unique hself hreaches' hself'
    have hsame : (Except.error err : Except EvalError Value) = .error err' :=
      (hreaches.fails hself).symm.trans (hreaches'.fails hself')
    cases hsame
    exact ⟨rfl, rfl, rfl, rfl⟩
  · intro name before after settings r' vs err hdirect hbefore hfails
    refine (fails_iff host _ r' err).2 (Or.inr ⟨before.length, e, r, ?_, hfails⟩)
    exact .argument hdirect (comesTo_append hbefore e after)

/-- Neither the null before it nor the name of the call, which no function has, hides a failure. -/
theorem a_failure_behind_a_null_is_the_failure_of_an_unknown_call :
    let host := Context.host 0
    let r := Run.start Context.empty
    let e := call "nothing" [literal .null, recorded "label" (failing "stop")] .default
    ((e.eval host).exec r).1 = .error (.message "stop") ∧
      ∀ path n s err, Reaches host e r path n s → n.FailsItself host s err →
        path = [1, 0] ∧ n = failing "stop" ∧ err = .message "stop" := by
  intro host r e
  have hdirect : Direct "nothing" 2 := by simp [Direct]
  have harguments := a_failure_has_exactly_one_origin host (recorded "label" (failing "stop"))
    (r.logged (.call "nothing" 2))
  have hfails := harguments.2.2 "nothing" [literal .null] [] .default r [.null] (.message "stop")
    hdirect rfl rfl
  have hway : Reaches host e r [1, 0] (failing "stop")
      ((r.logged (.call "nothing" 2)).noted "label") :=
    .down (.argument hdirect (.later rfl .first)) (.down .inner .here)
  refine ⟨hfails, fun path n s err hreaches hself => ?_⟩
  obtain ⟨rfl, rfl, -, rfl⟩ := (a_failure_has_exactly_one_origin host e r).2.1 _ _ _ _ _ _ _ _
    hreaches hself hway .failing
  exact ⟨rfl, rfl, rfl⟩

end Expr

end Predefined
