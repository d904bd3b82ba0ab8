-- When two evaluations agree: the same expression, on two hosts that may be of different kinds,
-- with a relation between the runs that every single step keeps. Then the results are equal and the
-- relation holds at the end, whether the evaluation succeeds, fails, or a failure is turned into a
-- value on the way.
import Predefined.Proofs.Nodes

namespace Predefined

variable {σ τ α β : Type}

/-- From related runs, both steps give the same result and end in related runs. -/
def Eval.Agree (R : Run σ → Run τ → Prop) (m : Eval σ α) (n : Eval τ α) : Prop :=
  ∀ r s, R r s → (m.exec r).1 = (n.exec s).1 ∧ R (m.exec r).2 (n.exec s).2

/-- The relation does not depend on what is written to the log and the journal, as long as both
runs write the same. -/
structure Run.KeptByWriting (R : Run σ → Run τ → Prop) : Prop where
  logged : ∀ {r s} record, R r s → R (r.logged record) (s.logged record)
  noted : ∀ {r s} label, R r s → R (r.noted label) (s.noted label)

namespace Eval

variable {R : Run σ → Run τ → Prop}

theorem agree_pure (a : α) : Agree R (pure a) (pure a) :=
  fun _ _ h => ⟨rfl, h⟩

theorem agree_throw (e : EvalError) : Agree (α := α) R (throw e) (throw e) :=
  fun _ _ h => ⟨rfl, h⟩

theorem agree_ofExcept (x : Except EvalError α) : Agree R (ofExcept x) (ofExcept x) := by
  intro r s h
  simp [h]

theorem agree_log (hR : Run.KeptByWriting R) (record : LogRecord) :
    Agree R (log record) (log record) :=
  fun _ _ h => ⟨rfl, hR.logged record h⟩

theorem agree_note (hR : Run.KeptByWriting R) (label : String) :
    Agree R (note label) (note label) :=
  fun _ _ h => ⟨rfl, hR.noted label h⟩

/-- What comes behind a first step needs to agree on the values that the first step gives only. -/
theorem agree_bind_of_ok {m : Eval σ α} {n : Eval τ α} {f : α → Eval σ β} {g : α → Eval τ β}
    (hmn : Agree R m n) (hfg : ∀ r a r', m.exec r = (.ok a, r') → Agree R (f a) (g a)) :
    Agree R (m >>= f) (n >>= g) := by
  intro r s h
  obtain ⟨heq, h'⟩ := hmn r s h
  rw [exec_bind, exec_bind]
  rcases hm : m.exec r with ⟨x, r'⟩
  rcases hn : n.exec s with ⟨y, s'⟩
  rw [hm, hn] at heq h'
  simp only at heq h'
  subst heq
  cases x with
  | error e => exact ⟨rfl, h'⟩
  | ok a => exact hfg r a r' hm r' s' h'

theorem agree_bind {m : Eval σ α} {n : Eval τ α} {f : α → Eval σ β} {g : α → Eval τ β}
    (hmn : Agree R m n) (hfg : ∀ a, Agree R (f a) (g a)) : Agree R (m >>= f) (n >>= g) :=
  agree_bind_of_ok hmn fun _ a _ _ => hfg a

theorem agree_logs (hR : Run.KeptByWriting R) (records : List LogRecord) :
    Agree R (records.forM log) (records.forM log) := by
  induction records with
  | nil => exact agree_pure ()
  | cons record records ih => exact agree_bind (agree_log hR record) fun _ => ih

theorem agree_conclude (hR : Run.KeptByWriting R) (records : List LogRecord)
    (x : Except EvalError α) : Agree R (conclude records x) (conclude records x) :=
  agree_bind (agree_logs hR records) fun _ => agree_ofExcept x

/-- Also a failure that is turned into a value is the same on both sides. -/
theorem agree_present (hR : Run.KeptByWriting R) {m : Eval σ Value} {n : Eval τ Value}
    (hmn : Agree R m n) : Agree R (present m) (present n) := by
  have hout : Agree R (outcome m) (outcome n) := by
    intro r s h
    obtain ⟨heq, h'⟩ := hmn r s h
    exact ⟨congrArg Except.ok heq, h'⟩
  refine agree_bind hout fun x => ?_
  cases x with
  | ok v => exact agree_pure _
  | error e => exact agree_bind (agree_log hR _) fun _ => agree_pure _

end Eval

/-- Two hosts agree on a call: on the time when it asks for the time, and on every look-up of the
kind that it makes. -/
structure Host.AgreeOn (R : Run σ → Run τ → Prop) (h : Host σ) (h' : Host τ) (name : String)
    (count : Nat) : Prop where
  clock : name = "now" → count = 0 → h.clock = h'.clock
  reply : ∀ q, lookupKind? name count = some q.kind →
    Eval.Agree R (Eval.ask (h.reply q)) (Eval.ask (h'.reply q))

section Calls

variable {R : Run σ → Run τ → Prop} {h : Host σ} {h' : Host τ}

theorem agree_plan (hR : Run.KeptByWriting R) {kind? : Option Lookup.Kind}
    (hreply : ∀ q, kind? = some q.kind →
      Eval.Agree R (Eval.ask (h.reply q)) (Eval.ask (h'.reply q)))
    (settings : Settings) {plan : Plan} (hplan : plan.Fits kind?) :
    Eval.Agree R (plan.perform h settings) (plan.perform h' settings) := by
  cases plan with
  | answer records x => exact Eval.agree_conclude hR records x
  | ask records q =>
    refine Eval.agree_bind (Eval.agree_logs hR records) fun _ => ?_
    exact Eval.agree_bind (hreply q hplan) fun reply => Eval.agree_conclude hR _ _

theorem agree_callValues (hR : Run.KeptByWriting R) (settings : Settings) {name : String}
    {values : List Value} (hon : h.AgreeOn R h' name values.length) :
    Eval.Agree R (callValues h settings name values) (callValues h' settings name values) := by
  obtain ⟨plan, hfits, hplan⟩ := callValues_plan settings name values
  rw [hplan σ h, hplan τ h']
  exact agree_plan hR hon.reply settings hfits

theorem agree_callNullary {name : String} (hon : h.AgreeOn R h' name 0) :
    Eval.Agree R (callNullary h name) (callNullary h' name) := by
  rw [callNullary, callNullary]
  rcases hf : Nullary.ofName? name with _ | f
  · exact Eval.agree_throw _
  · have hname : f.name = name := by simpa using List.find?_some hf
    cases f with
    | now =>
      simp only [Nullary.apply, hon.clock hname.symm rfl]
      exact Eval.agree_pure _

mutual

theorem Expr.agree_eval (hR : Run.KeptByWriting R) (e : Expr)
    (he : e.EveryCall fun name count _ => h.AgreeOn R h' name count) :
    Eval.Agree R (e.eval h) (e.eval h') := by
  match e, he with
  | literal v, _ => exact Eval.agree_pure v
  | failing text, _ => exact Eval.agree_throw _
  | recorded label inner, he =>
    exact Eval.agree_bind (Eval.agree_note hR label) fun _ => agree_eval hR inner he
  | call name es settings, ⟨hon, hes⟩ =>
    rcases call_forms name es with rfl | ⟨rfl, e, rfl⟩ | hdirect | hmany
    · simp only [eval_call_nil]
      exact Eval.agree_bind (Eval.agree_log hR _) fun _ => agree_callNullary hon
    · simp only [eval_exists]
      exact Eval.agree_bind (Eval.agree_log hR _) fun _ =>
        Eval.agree_present hR (agree_eval hR e hes.1)
    · simp only [eval_call_of_direct _ name settings hdirect]
      refine Eval.agree_bind (Eval.agree_log hR _) fun _ => ?_
      -- There are as many values as arguments, so the look-up is the one that the node makes.
      refine Eval.agree_bind_of_ok (agree_evalAll hR es hes) fun r vs r' hvs => ?_
      exact agree_callValues hR settings (length_of_evalAll hvs ▸ hon)
    · simp only [eval_call_of_three_lt _ name settings hmany]
      exact Eval.agree_bind (Eval.agree_log hR _) fun _ => Eval.agree_throw _

theorem Expr.agree_evalAll (hR : Run.KeptByWriting R) (es : List Expr)
    (hes : EveryCallIn (fun name count _ => h.AgreeOn R h' name count) es) :
    Eval.Agree R (evalAll h es) (evalAll h' es) := by
  match es, hes with
  | [], _ => exact Eval.agree_pure []
  | e :: es, ⟨he, hes⟩ =>
    refine Eval.agree_bind (agree_eval hR e he) fun v => ?_
    exact Eval.agree_bind (agree_evalAll hR es hes) fun vs => Eval.agree_pure _

end

end Calls

end Predefined
