-- A context that several expressions share, one after the other. An evaluation reads the stores of
-- a context and never changes them, and nothing reads the look-ups that a context remembers. So an
-- evaluation in one context and in another with the same stores go side by side, and what came
-- before in a session cannot be seen in an answer.
import Predefined.Proofs.Agreement

namespace Predefined

namespace Context

variable {c d : Context}

/-! ## Stores -/

/-- Two contexts that differ only in the look-ups they remember. -/
structure SameStores (c d : Context) : Prop where
  registry : c.registry = d.registry
  secrets : c.secrets = d.secrets
  xpath : c.xpath = d.xpath
  vaultPrefix : c.vaultPrefix = d.vaultPrefix

theorem SameStores.refl (c : Context) : c.SameStores c :=
  ⟨rfl, rfl, rfl, rfl⟩

theorem SameStores.with_calls (h : c.SameStores d) (calls calls' : Array Lookup) :
    ({ c with calls } : Context).SameStores { d with calls := calls' } :=
  ⟨h.registry, h.secrets, h.xpath, h.vaultPrefix⟩

/-- What a context answers to a look-up. -/
def reply (c : Context) : (q : Lookup) → q.Reply
  | .resource key => .ok (c.resource? key)
  | .property key name => c.property? key name
  | .secret key => .ok (c.secret key)
  | .xpath expression => c.xpathResult expression

theorem host_reply (clock : Int64) (q : Lookup) (c : Context) :
    (host clock).reply q c = (c.reply q, c.record q) := by
  cases q <;> rfl

theorem SameStores.reply_eq (h : c.SameStores d) (q : Lookup) : c.reply q = d.reply q := by
  rcases c with ⟨registry, secrets, xpath, vaultPrefix, _⟩
  obtain ⟨rfl, rfl, rfl, rfl⟩ := h
  cases q <;> rfl

/-! ## Runs side by side -/

/-- A run that began in `c` and one that began in `d` have made the same look-ups since, and have
the same journal and log. -/
structure SideBySide (c d : Context) (r s : Run Context) : Prop where
  hosts : ∃ calls : Array Lookup,
    r.host = { c with calls := c.calls ++ calls } ∧ s.host = { d with calls := d.calls ++ calls }
  journal : r.journal = s.journal
  log : r.log = s.log

theorem sideBySide_start (c d : Context) : SideBySide c d (Run.start c) (Run.start d) := by
  refine ⟨⟨#[], ?_, ?_⟩, rfl, rfl⟩
  · simp [Run.start]
  · simp [Run.start]

theorem sideBySide_keptByWriting (c d : Context) : Run.KeptByWriting (SideBySide c d) where
  logged record h := ⟨h.hosts, h.journal, congrArg (·.push record) h.log⟩
  noted label h := ⟨h.hosts, congrArg (·.push label) h.journal, h.log⟩

/-- A look-up gives the same reply on both sides, and both sides remember it. -/
theorem agree_ask (h : c.SameStores d) (clock clock' : Int64) (q : Lookup) :
    Eval.Agree (SideBySide c d) (Eval.ask ((host clock).reply q))
      (Eval.ask ((host clock').reply q)) := by
  rintro r s ⟨⟨calls, hr, hs⟩, hjournal, hlog⟩
  have hsame : r.host.SameStores s.host := by
    rw [hr, hs]
    exact h.with_calls _ _
  simp only [Eval.exec_ask, host_reply]
  refine ⟨congrArg Except.ok (hsame.reply_eq q), ⟨calls.push q, ?_, ?_⟩, hjournal, hlog⟩
  · simp only [hr, record, Array.push_append]
  · simp only [hs, record, Array.push_append]

theorem agree_eval (h : c.SameStores d) {clock clock' : Int64} {e : Expr}
    (hclock : clock = clock' ∨ e.Timeless) :
    Eval.Agree (SideBySide c d) (e.eval (host clock)) (e.eval (host clock')) := by
  refine Expr.agree_eval (sideBySide_keptByWriting c d) e ?_
  rcases hclock with rfl | htimeless
  · refine Expr.everyCall_of_forall (fun name count _ => ?_) e
    exact ⟨fun _ _ => rfl, fun q _ => agree_ask h clock clock q⟩
  · refine Expr.everyCall_mono (fun name count _ hnow => ?_) e htimeless
    exact ⟨fun hname hcount => absurd ⟨hname, hcount⟩ hnow, fun q _ => agree_ask h clock clock' q⟩

end Context

/-! ## Sessions -/

/-- What an evaluation shows of itself: the result, the look-ups it made, the labels of the recorded
nodes it came by, and what it logged. -/
structure Answer where
  result : Except EvalError Value
  calls : List Lookup
  journal : List String
  log : List LogRecord

namespace Context

/-- Evaluates an expression in a context, and gives the answer and the context it leaves behind. -/
def evaluate (c : Context) (clock : Int64) (e : Expr) : Answer × Context :=
  let (result, run) := (e.eval (host clock)).exec (Run.start c)
  ({ result
     calls := run.host.calls.toList.drop c.calls.size
     journal := run.journal.toList
     log := run.log.toList }, run.host)

/-- Evaluates expressions one after the other, each at its own time and in the context that the one
before it left behind. -/
def session (c : Context) : List (Int64 × Expr) → List Answer × Context
  | [] => ([], c)
  | (clock, e) :: steps =>
    let (answer, c) := c.evaluate clock e
    let (answers, c) := session c steps
    (answer :: answers, c)

/-- The context with the look-ups of an answer remembered. -/
def remember (c : Context) (calls : List Lookup) : Context :=
  { c with calls := c.calls ++ calls.toArray }

variable {c d : Context}

theorem remember_remember (c : Context) (xs ys : List Lookup) :
    (c.remember xs).remember ys = c.remember (xs ++ ys) := by
  simp [remember]

/-- Side by side, an expression gets one answer, and each context remembers the look-ups of it. -/
theorem evaluate_sideBySide (h : c.SameStores d) (clock clock' : Int64) (e : Expr)
    (hclock : clock = clock' ∨ e.Timeless) :
    (c.evaluate clock e).1 = (d.evaluate clock' e).1 ∧
      (c.evaluate clock e).2 = c.remember (c.evaluate clock e).1.calls := by
  obtain ⟨hresult, ⟨calls, hc, hd⟩, hjournal, hlog⟩ :=
    agree_eval h hclock _ _ (sideBySide_start c d)
  have hcalls : ∀ b : Context, (b.calls ++ calls).toList.drop b.calls.size = calls.toList := by
    simp
  refine ⟨?_, ?_⟩
  · simp only [evaluate, hresult, hc, hd, hcalls, hjournal, hlog]
  · simp only [evaluate, remember, hc, hcalls]

theorem session_answers (steps : List (Int64 × Expr)) (h : c.SameStores d) (clock : Int64)
    (htimeless : ∀ step ∈ steps, step.2.Timeless) :
    (c.session steps).1 = steps.map fun step => (d.evaluate clock step.2).1 := by
  -- For all contexts with the stores of `d`, since every step leaves another one behind.
  induction steps generalizing c with
  | nil => rfl
  | cons step steps ih =>
    obtain ⟨time, e⟩ := step
    have he : e.Timeless := htimeless (time, e) List.mem_cons_self
    obtain ⟨hanswer, hafter⟩ := evaluate_sideBySide h time clock e (Or.inr he)
    have hstores : ((c.evaluate time e).2).SameStores d := by
      rw [hafter]
      exact h.with_calls _ _
    have hrest := ih hstores fun step hstep => htimeless step (List.mem_cons_of_mem _ hstep)
    simp only [session, List.map_cons, hanswer, hrest]

theorem session_context (steps : List (Int64 × Expr)) (c : Context) :
    (c.session steps).2 = c.remember ((c.session steps).1.flatMap (·.calls)) := by
  induction steps generalizing c with
  | nil => simp [session, remember]
  | cons step steps ih =>
    obtain ⟨time, e⟩ := step
    obtain ⟨-, hafter⟩ := evaluate_sideBySide (SameStores.refl c) time time e (Or.inl rfl)
    simp only [session, List.flatMap_cons, ih, hafter, remember_remember]

/-- An evaluation leaves the stores of its context as they are, and only adds to the look-ups that
the context remembers. Its answer depends on the stores, and not on what is remembered. Hence, in a
session, every expression gets the answer that it gets alone in a fresh context. -/
theorem a_session_answers_each_expression_as_if_alone (c : Context) :
    (∀ clock e, (c.evaluate clock e).2 = c.remember (c.evaluate clock e).1.calls) ∧
    (∀ d, c.SameStores d → ∀ (clock clock' : Int64) (e : Expr), e.Timeless →
      (c.evaluate clock e).1 = (d.evaluate clock' e).1) ∧
    (∀ d, c.SameStores d → ∀ (clock : Int64) (steps : List (Int64 × Expr)),
      (∀ step ∈ steps, step.2.Timeless) →
        (c.session steps).1 = steps.map (fun step => (d.evaluate clock step.2).1) ∧
        (c.session steps).2 = c.remember ((c.session steps).1.flatMap (·.calls))) := by
  refine ⟨fun clock e => ?_, fun d h clock clock' e he => ?_, fun d h clock steps hsteps => ?_⟩
  · exact (evaluate_sideBySide (SameStores.refl c) clock clock e (Or.inl rfl)).2
  · exact (evaluate_sideBySide h clock clock' e (Or.inr he)).1
  · exact ⟨session_answers steps h clock hsteps, session_context steps c⟩

/-- A secret that is asked for twice, in a context that remembers a look-up from before. -/
theorem a_secret_asked_for_again_is_the_same :
    let c := empty.withSecret "key" "value"
    let e := Expr.call "secret" [.literal (.string "key")] .default
    let answers := ((c.remember [.xpath "/"]).session [(0, e), (1, e)]).1
    answers.map (fun answer => (answer.result, answer.calls)) =
      [(.ok (.string "value"), [.secret "key"]), (.ok (.string "value"), [.secret "key"])] := by
  intro c e answers
  have hstores : (c.remember [.xpath "/"]).SameStores c := ⟨rfl, rfl, rfl, rfl⟩
  have he : e.Timeless := by simp [e, Expr.Timeless, Expr.EveryCall, Expr.EveryCallIn]
  have hsteps : ∀ step ∈ [((0 : Int64), e), (1, e)], step.2.Timeless := by simp [he]
  have halone : answers = [(c.evaluate 2 e).1, (c.evaluate 2 e).1] :=
    ((a_session_answers_each_expression_as_if_alone _).2.2 c hstores 2 _ hsteps).1
  simp only [halone, c, e]
  rfl

end Context

end Predefined
