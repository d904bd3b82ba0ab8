-- Which names a call knows. The catalogue, the question whether a name is supported, and the
-- routing of a call each have their own way to a function, and a name with a number of arguments is
-- known to all three or to none.
import Predefined.Proofs.Failure
import Predefined.Proofs.FunctionFailure
import Predefined.Proofs.Signatures

namespace Predefined

variable {σ : Type}

/-! ## Calls -/

theorem count_of_ofCount? {n : Nat} {arity : Arity} (h : Arity.ofCount? n = some arity) :
    arity.count = n := by
  match n, h with
  | 0, h | 1, h | 2, h | 3, h => cases h; rfl
  | _ + 4, h => cases h

theorem le_three_of_ofCount? {n : Nat} {arity : Arity} (h : Arity.ofCount? n = some arity) :
    n ≤ 3 := by
  rw [← count_of_ofCount? h]
  cases arity <;> decide

/-- A direct call looks for its function where the support of the name is read from. -/
theorem isSome_builtIn? (host : Host σ) (settings : Settings) {name : String}
    {values : List Value} {arity : Arity} (harity : Arity.ofCount? values.length = some arity)
    (hdirect : Direct name values.length) :
    (builtIn? host settings name values).isSome = Catalogue.supports name arity := by
  match values, hdirect with
  | [], h => exact absurd h.1 (by simp)
  | [v], h =>
    cases harity
    have hname : name ≠ "exists" := fun he => h.2.2 ⟨he, rfl⟩
    simp [builtIn?, Catalogue.supports, specialForm_ofName? hname]
  | [v, w], _ =>
    cases harity
    simp [builtIn?, Catalogue.supports]
  | [u, v, w], _ =>
    cases harity
    simp [builtIn?, Catalogue.supports]
  | _ :: _ :: _ :: _ :: _, _ => cases harity

section Calls

variable {host : Host σ} {settings : Settings} {name : String} {es : List Expr} {r s : Run σ}
  {arity : Arity} {vs : List Value}

/-- When all arguments of a direct call have values other than null, the call is its function, or
fails for want of one. -/
theorem call_of_direct (hdirect : Direct name es.length)
    (harity : Arity.ofCount? es.length = some arity)
    (hvs : (Expr.evalAll host es).exec (r.logged (.call name es.length)) = (.ok vs, s))
    (hpresent : ∀ v ∈ vs, v.isNull = false) :
    ((Expr.call name es settings).eval host).exec r =
      match builtIn? host settings name vs with
      | some m => m.exec s
      | none => (.error (.unknownFunction name arity), s) := by
  have hlen : vs.length = es.length := Expr.length_of_evalAll hvs
  have hne : vs ≠ [] := by
    rintro rfl
    have := hdirect.1
    simp at hlen
    omega
  rw [Expr.eval_call_of_direct host name settings hdirect, Eval.log_bind_exec,
    Eval.exec_bind_of_ok hvs, callValues_of_present host settings name hne (hlen ▸ harity)
      (leftmostNull_of_forall hpresent)]
  rcases builtIn? host settings name vs with _ | m <;> rfl

/-- A call whose arguments all have values other than null fails for want of a function when its
name is not supported. -/
theorem call_of_not_supported (harity : Arity.ofCount? es.length = some arity)
    (hvs : (Expr.evalAll host es).exec (r.logged (.call name es.length)) = (.ok vs, s))
    (hpresent : ∀ v ∈ vs, v.isNull = false) (h : Catalogue.supports name arity = false) :
    (Expr.call name es settings).Fails host r (.unknownFunction name arity) := by
  rcases call_forms name es with rfl | ⟨rfl, e, rfl⟩ | hdirect | hmany
  · cases harity
    rw [Expr.Fails, Expr.eval_call_nil, Eval.log_bind_exec, callNullary]
    rw [Catalogue.supports, Option.isSome_eq_false_iff, Option.isNone_iff_eq_none] at h
    rw [h]
    rfl
  · cases harity
    cases h
  · have hlen : vs.length = es.length := Expr.length_of_evalAll hvs
    have hnone : builtIn? host settings name vs = none := by
      rw [← isSome_builtIn? host settings (hlen ▸ harity) (hlen ▸ hdirect)] at h
      simpa using h
    rw [Expr.Fails, call_of_direct hdirect harity hvs hpresent, hnone]
  · have := le_three_of_ofCount? harity
    omega

/-- When its name is supported, such a call fails as its function does and not otherwise. -/
theorem call_of_supported (harity : Arity.ofCount? es.length = some arity)
    (hvs : (Expr.evalAll host es).exec (r.logged (.call name es.length)) = (.ok vs, s))
    (hpresent : ∀ v ∈ vs, v.isNull = false) (h : Catalogue.supports name arity = true)
    {e : EvalError} (he : (Expr.call name es settings).Fails host r e) : e.OfFunction := by
  rcases call_forms name es with rfl | ⟨rfl, e, rfl⟩ | hdirect | hmany
  · cases harity
    obtain ⟨f, hf⟩ := Option.isSome_iff_exists.1 h
    rw [Expr.Fails, Expr.eval_call_nil, Eval.log_bind_exec, callNullary, hf] at he
    cases f with
    | now => cases he
  · rw [Expr.Fails, Expr.eval_exists, Eval.log_bind_exec] at he
    exact Eval.failsOnly_present _ _ _ he
  · have hlen : vs.length = es.length := Expr.length_of_evalAll hvs
    rw [← isSome_builtIn? host settings (hlen ▸ harity) (hlen ▸ hdirect),
      Option.isSome_iff_exists] at h
    obtain ⟨m, hm⟩ := h
    rw [Expr.Fails, call_of_direct hdirect harity hvs hpresent, hm] at he
    exact failsOnly_builtIn host settings hm _ _ he
  · have := le_three_of_ofCount? harity
    omega

/-- The catalogue, the question whether a name is supported, and calls agree on every name. A call
with at most three arguments, all of which have values other than null, fails for want of a function
when the name is not supported and when the catalogue has no signature of the name with so many
parameters. If it has one, it has no second one, and the call does not fail for its name or for the
number of its arguments. With more than three arguments every call fails before any of them is
evaluated, and no signature has so many parameters. -/
theorem the_catalogue_and_calls_know_the_same_names (host : Host σ) (settings : Settings)
    (name : String) (es : List Expr) (r : Run σ) :
    (es.length ≤ 3 → ∃ arity, Arity.ofCount? es.length = some arity ∧
      (Catalogue.supports name arity = false ↔
        ∀ s ∈ Catalogue.lookup name, s.arity ≠ es.length) ∧
      (Catalogue.supports name arity = true →
        ∃ s, (Catalogue.lookup name).filter (·.arity = es.length) = [s]) ∧
      ∀ vs t, (Expr.evalAll host es).exec (r.logged (.call name es.length)) = (.ok vs, t) →
        (∀ v ∈ vs, v.isNull = false) →
        let outcome := (((Expr.call name es settings).eval host).exec r).1
        (outcome = .error (.unknownFunction name arity) ↔
          Catalogue.supports name arity = false) ∧
        (Catalogue.supports name arity = true →
          (∀ f a, outcome ≠ .error (.unknownFunction f a)) ∧
          ∀ f n, outcome ≠ .error (.argumentCount f n))) ∧
    (3 < es.length →
      ((Expr.call name es settings).eval host).exec r =
        (.error (.argumentCount name es.length), r.logged (.call name es.length)) ∧
      ∀ s ∈ Catalogue.lookup name, s.arity ≠ es.length) := by
  refine ⟨fun hfew => ?_, fun hmany => ⟨?_, ?_⟩⟩
  · obtain ⟨arity, harity⟩ := exists_arity hfew
    have hkeys : Catalogue.supports name arity = true ↔ (name, es.length) ∈ Catalogue.keys := by
      rw [Catalogue.supports_iff_mem_keys, count_of_ofCount? harity]
    refine ⟨arity, harity, ?_, fun h => ?_, fun vs t hvs hpresent => ⟨⟨fun he => ?_, ?_⟩, ?_⟩⟩
    · rw [← Bool.not_eq_true, hkeys, Catalogue.mem_keys_iff_exists]
      simp
    · exact Catalogue.exists_filter_lookup_eq_singleton (hkeys.1 h)
    · by_contra hne
      have hsupports : Catalogue.supports name arity = true := by simpa using hne
      exact call_of_supported harity hvs hpresent hsupports he
    · exact call_of_not_supported harity hvs hpresent
    · intro h
      exact ⟨fun f a => call_of_supported harity hvs hpresent h,
        fun f n => call_of_supported harity hvs hpresent h⟩
  · rw [Expr.eval_call_of_three_lt host name settings hmany]
    rfl
  · intro s hs hcount
    have := Catalogue.count_le_three (Catalogue.mem_keys_iff_exists.2 ⟨s, hs, hcount⟩)
    omega

/-- `toUpper` is known for one argument, but not for two, and `substring` for no more than three. -/
theorem calls_of_known_names_with_other_counts_fail :
    let a := Expr.literal (.string "a")
    let twice := Expr.call "toUpper" [a, a] .default
    let fourfold := Expr.call "substring" [a, a, a, a] .default
    let start := Run.start Context.empty
    (((twice.eval (Context.host 0)).exec start).1 = .error (.unknownFunction "toUpper" .binary) ∧
      (∀ s ∈ Catalogue.lookup "toUpper", s.arity ≠ 2) ∧
      ∃ s, (Catalogue.lookup "toUpper").filter (·.arity = 1) = [s]) ∧
    ((fourfold.eval (Context.host 0)).exec start).1 = .error (.argumentCount "substring" 4) ∧
      ∀ s ∈ Catalogue.lookup "substring", s.arity ≠ 4 := by
  intro a twice fourfold start
  obtain ⟨arity, harity, hsignatures, -, hcall⟩ :=
    (the_catalogue_and_calls_know_the_same_names (Context.host 0) .default "toUpper" [a, a]
      start).1 (by decide)
  cases harity
  have hunknown : Catalogue.supports "toUpper" .binary = false := by decide
  obtain ⟨arity, harity, -, hone, -⟩ :=
    (the_catalogue_and_calls_know_the_same_names (Context.host 0) .default "toUpper" [a]
      start).1 (by decide)
  cases harity
  obtain ⟨hfourfold, hnone⟩ :=
    (the_catalogue_and_calls_know_the_same_names (Context.host 0) .default "substring"
      [a, a, a, a] start).2 (by decide)
  refine ⟨⟨?_, hsignatures.1 hunknown, hone (by decide)⟩, congrArg Prod.fst hfourfold, hnone⟩
  exact (hcall _ _ rfl (by simp [Value.isNull])).1.2 hunknown

end Calls

end Predefined
