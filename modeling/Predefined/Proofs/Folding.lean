-- A part of an expression gives way to its value. What an evaluation does behind a part depends on
-- the result of the part alone, since nothing reads the look-ups that were made before. So a literal
-- in the place of the part leads to the same result, and only what the part itself leaves behind is
-- missing. When the evaluation does not come to the part, nothing is missing.
import Predefined.Proofs.Session

namespace Predefined

variable {α β : Type}

/-! ## Traces -/

/-- What an evaluation leaves behind besides its result. -/
structure Trace where
  calls : List Lookup
  journal : List String
  log : List LogRecord

namespace Trace

/-- Nothing is left behind. -/
def empty : Trace := ⟨[], [], []⟩

def label (label : String) : Trace := ⟨[], [label], []⟩

def record (record : LogRecord) : Trace := ⟨[], [], [record]⟩

instance : Append Trace where
  append s t := ⟨s.calls ++ t.calls, s.journal ++ t.journal, s.log ++ t.log⟩

theorem append_eq (s t : Trace) :
    s ++ t = ⟨s.calls ++ t.calls, s.journal ++ t.journal, s.log ++ t.log⟩ :=
  rfl

@[simp] theorem empty_append (t : Trace) : empty ++ t = t := by
  simp [append_eq, empty]

@[simp] theorem append_empty (t : Trace) : t ++ empty = t := by
  simp [append_eq, empty]

theorem append_assoc (s t u : Trace) : s ++ t ++ u = s ++ (t ++ u) := by
  simp [append_eq]

end Trace

def Answer.trace (a : Answer) : Trace := ⟨a.calls, a.journal, a.log⟩

/-- The run with a trace behind what it has left already. -/
def Run.leaving (r : Run Context) (t : Trace) : Run Context where
  host := r.host.remember t.calls
  journal := r.journal ++ t.journal.toArray
  log := r.log ++ t.log.toArray

namespace Run

theorem leaving_leaving (r : Run Context) (s t : Trace) :
    (r.leaving s).leaving t = r.leaving (s ++ t) := by
  simp [leaving, Trace.append_eq, Context.remember]

theorem leaving_empty (r : Run Context) : r.leaving .empty = r := by
  simp [leaving, Trace.empty, Context.remember]

theorem leaving_label (r : Run Context) (label : String) :
    r.leaving (.label label) = r.noted label := by
  simp [leaving, Trace.label, Context.remember, noted]

theorem leaving_record (r : Run Context) (record : LogRecord) :
    r.leaving (.record record) = r.logged record := by
  simp [leaving, Trace.record, Context.remember, logged]

theorem leaving_inj {r : Run Context} {s t : Trace} (h : r.leaving s = r.leaving t) : s = t := by
  have hcalls := congrArg (·.host.calls.toList) h
  have hjournal := congrArg (·.journal.toList) h
  have hlog := congrArg (·.log.toList) h
  simp only [leaving, Context.remember, Array.toList_append, List.append_cancel_left_eq]
    at hcalls hjournal hlog
  obtain ⟨_, _, _⟩ := s
  obtain ⟨_, _, _⟩ := t
  cases hcalls
  cases hjournal
  cases hlog
  rfl

theorem sameStores_leaving {c : Context} {r : Run Context} (h : r.host.SameStores c) (t : Trace) :
    (r.leaving t).host.SameStores c :=
  ⟨h.registry, h.secrets, h.xpath, h.vaultPrefix⟩

end Run

/-! ## Steps in a context -/

/-- In every run whose context has the stores of `c`, a step gives one result and leaves one trace,
whatever the run has left before. -/
def Eval.Gives (c : Context) (m : Eval Context α) (result : Except EvalError α) (t : Trace) :
    Prop :=
  ∀ r, r.host.SameStores c → m.exec r = (result, r.leaving t)

namespace Eval

variable {c : Context}

theorem gives_pure (a : α) : Gives c (pure a) (.ok a) .empty := by
  intro r _
  rw [exec_pure, Run.leaving_empty]

theorem gives_throw (e : EvalError) : Gives (α := α) c (throw e) (.error e) .empty := by
  intro r _
  rw [exec_throw, Run.leaving_empty]

theorem gives_note (label : String) : Gives c (note label) (.ok ()) (.label label) := by
  intro r _
  rw [exec_note, Run.leaving_label]

theorem gives_log (record : LogRecord) : Gives c (log record) (.ok ()) (.record record) := by
  intro r _
  rw [Run.leaving_record]
  rfl

theorem gives_bind {m : Eval Context α} {f : α → Eval Context β} {a : α} {t t' : Trace}
    {result : Except EvalError β} (hm : Gives c m (.ok a) t) (hf : Gives c (f a) result t') :
    Gives c (m >>= f) result (t ++ t') := by
  intro r hr
  rw [exec_bind_of_ok (hm r hr), hf _ (Run.sameStores_leaving hr t), Run.leaving_leaving]

theorem gives_bind_of_error {m : Eval Context α} {e : EvalError} {t : Trace}
    (hm : Gives c m (.error e) t) (f : α → Eval Context β) : Gives c (m >>= f) (.error e) t := by
  intro r hr
  rw [exec_bind_of_error (hm r hr)]

end Eval

/-! ## Evaluations in a context -/

namespace Context

variable {c : Context}

/-- Two runs that have left the same trace since they began, one in `r` and the other in `s`. -/
def Alongside (r s u v : Run Context) : Prop :=
  ∃ t, u = r.leaving t ∧ v = s.leaving t

theorem alongside_keptByWriting (r s : Run Context) : Run.KeptByWriting (Alongside r s) where
  logged record h := by
    obtain ⟨t, rfl, rfl⟩ := h
    exact ⟨t ++ .record record, by simp only [← Run.leaving_record, Run.leaving_leaving],
      by simp only [← Run.leaving_record, Run.leaving_leaving]⟩
  noted label h := by
    obtain ⟨t, rfl, rfl⟩ := h
    exact ⟨t ++ .label label, by simp only [← Run.leaving_label, Run.leaving_leaving],
      by simp only [← Run.leaving_label, Run.leaving_leaving]⟩

theorem agree_ask_alongside {r s : Run Context} (h : r.host.SameStores s.host) (clock : Int64)
    (q : Lookup) :
    Eval.Agree (Alongside r s) (Eval.ask ((host clock).reply q))
      (Eval.ask ((host clock).reply q)) := by
  rintro _ _ ⟨t, rfl, rfl⟩
  have hsame : (r.leaving t).host.SameStores (s.leaving t).host := h.with_calls _ _
  simp only [Eval.exec_ask, host_reply]
  refine ⟨congrArg Except.ok (hsame.reply_eq q), t ++ ⟨[q], [], []⟩, ?_, ?_⟩
  · simp [Run.leaving, Trace.append_eq, remember, record]
  · simp [Run.leaving, Trace.append_eq, remember, record]

theorem agreeOn_alongside {r s : Run Context} (h : r.host.SameStores s.host) (clock : Int64)
    (name : String) (count : Nat) :
    (host clock).AgreeOn (Alongside r s) (host clock) name count :=
  ⟨fun _ _ => rfl, fun q _ => agree_ask_alongside h clock q⟩

/-- A step that goes the same way from all runs gives one result and leaves one trace. -/
theorem exists_gives {m : Eval Context α}
    (h : ∀ r s : Run Context, r.host.SameStores s.host → Eval.Agree (Alongside r s) m m) :
    ∃ result t, Eval.Gives c m result t := by
  have hbegin : ∀ r s : Run Context, Alongside r s r s := fun r s =>
    ⟨.empty, (Run.leaving_empty r).symm, (Run.leaving_empty s).symm⟩
  obtain ⟨-, t, -, ht⟩ := h (Run.start c) (Run.start c) (.refl c) _ _ (hbegin _ _)
  refine ⟨(m.exec (Run.start c)).1, t, fun r hr => ?_⟩
  obtain ⟨hresult, t', hr', ht'⟩ := h r (Run.start c) hr _ _ (hbegin _ _)
  obtain rfl : t = t' := Run.leaving_inj (ht.symm.trans ht')
  exact Prod.ext hresult hr'

theorem exists_gives_eval (clock : Int64) (e : Expr) :
    ∃ result t, Eval.Gives c (e.eval (host clock)) result t :=
  exists_gives fun r s hrs => Expr.agree_eval (alongside_keptByWriting r s) e
    (Expr.everyCall_of_forall (fun name count _ => agreeOn_alongside hrs clock name count) e)

theorem exists_gives_evalAll (clock : Int64) (es : List Expr) :
    ∃ result t, Eval.Gives c (Expr.evalAll (host clock) es) result t :=
  exists_gives fun r s hrs => Expr.agree_evalAll (alongside_keptByWriting r s) es
    (Expr.everyCallIn_of_forall (fun name count _ => agreeOn_alongside hrs clock name count) es)

theorem exists_gives_callValues (clock : Int64) (settings : Settings) (name : String)
    (values : List Value) :
    ∃ result t, Eval.Gives c (callValues (host clock) settings name values) result t :=
  exists_gives fun r s hrs => agree_callValues (alongside_keptByWriting r s) settings
    (agreeOn_alongside hrs clock name values.length)

/-- The answer of an expression is what its evaluation gives in every run. -/
theorem evaluate_eq_of_gives {clock : Int64} {e : Expr} {result : Except EvalError Value}
    {t : Trace} (h : Eval.Gives c (e.eval (host clock)) result t) :
    (c.evaluate clock e).1 = ⟨result, t.calls, t.journal, t.log⟩ := by
  rw [evaluate, h (Run.start c) (.refl c)]
  simp [Run.leaving, Run.start, remember]

theorem gives_eval (clock : Int64) (e : Expr) :
    Eval.Gives c (e.eval (host clock)) (c.evaluate clock e).1.result
      (c.evaluate clock e).1.trace := by
  obtain ⟨result, t, h⟩ := exists_gives_eval (c := c) clock e
  rw [evaluate_eq_of_gives h]
  exact h

end Context

/-! ## What follows a step -/

/-- The steps `f i` do the same before the steps `m i`, and go on from their results. So behind
steps that give the same result, the same follows. -/
def Eval.Follows {ι : Type} (c : Context) (lead : Trace) (m : ι → Eval Context α)
    (f : ι → Eval Context β) : Prop :=
  ∀ inner, ∃ result rest, ∀ i t, Gives c (m i) inner t →
    Gives c (f i) result (lead ++ t ++ rest)

namespace Eval

variable {ι γ : Type} {c : Context} {lead lead' t : Trace} {m : ι → Eval Context α}

theorem follows_refl (c : Context) (m : ι → Eval Context α) : Follows c .empty m m := by
  refine fun inner => ⟨inner, .empty, fun i t h => ?_⟩
  simpa using h

theorem follows_trans {f : ι → Eval Context β} {g : ι → Eval Context γ}
    (hf : Follows c lead m f) (hg : Follows c lead' f g) : Follows c (lead' ++ lead) m g := by
  intro inner
  obtain ⟨middle, rest, hf⟩ := hf inner
  obtain ⟨result, rest', hg⟩ := hg middle
  refine ⟨result, rest ++ rest', fun i t h => ?_⟩
  simpa only [Trace.append_assoc] using hg i _ (hf i t h)

theorem follows_comp {κ : Type} {f : ι → Eval Context β} (hf : Follows c lead m f) (k : κ → ι) :
    Follows c lead (fun j => m (k j)) fun j => f (k j) := by
  intro inner
  obtain ⟨result, rest, hf⟩ := hf inner
  exact ⟨result, rest, fun j => hf (k j)⟩

theorem follows_before {k : Eval Context γ} {a : γ} {f : γ → ι → Eval Context β}
    (hk : Gives c k (.ok a) t) (hf : Follows c lead m (f a)) :
    Follows c (t ++ lead) m fun i => k >>= fun a => f a i := by
  intro inner
  obtain ⟨result, rest, hf⟩ := hf inner
  refine ⟨result, rest, fun i t' h => ?_⟩
  rw [Trace.append_assoc t, Trace.append_assoc t]
  exact gives_bind hk (hf i t' h)

theorem follows_behind {f : ι → Eval Context β} {g : β → Eval Context γ}
    (hf : Follows c lead m f) (hg : ∀ b, ∃ result t, Gives c (g b) result t) :
    Follows c lead m fun i => f i >>= g := by
  intro inner
  obtain ⟨middle, rest, hf⟩ := hf inner
  cases middle with
  | error e => exact ⟨.error e, rest, fun i t h => gives_bind_of_error (hf i t h) g⟩
  | ok b =>
    obtain ⟨result, rest', hg⟩ := hg b
    refine ⟨result, rest ++ rest', fun i t h => ?_⟩
    simpa only [Trace.append_assoc] using gives_bind (hf i t h) hg

theorem follows_present {f : ι → Eval Context Value} (hf : Follows c lead m f) :
    Follows c lead m fun i => present (f i) := by
  intro inner
  obtain ⟨middle, rest, hf⟩ := hf inner
  cases middle with
  | ok v =>
    refine ⟨.ok (.boolean !v.isNull), rest, fun i t h r hr => ?_⟩
    exact present_of_ok (hf i t h r hr)
  | error e =>
    refine ⟨.ok (.boolean false), rest ++ .record (.absent e), fun i t h r hr => ?_⟩
    rw [present_of_error (hf i t h r hr), ← Run.leaving_record, Run.leaving_leaving]
    simp only [Trace.append_assoc]

end Eval

/-! ## Places -/

/-- A place in an expression, with all that stands around it. -/
inductive Place where
  /-- The whole expression. -/
  | here
  /-- A place inside a recorded node. -/
  | recorded (label : String) (inner : Place)
  /-- A place inside an argument of a call. -/
  | argument (function : String) (before : List Expr) (inner : Place) (after : List Expr)
    (settings : Settings)

namespace Place

/-- The expression with a part in the place. -/
def fill : Place → Expr → Expr
  | here, e => e
  | recorded label p, e => .recorded label (p.fill e)
  | argument function before p after settings, e =>
    .call function (before ++ p.fill e :: after) settings

end Place

theorem Expr.evalAll_append {σ : Type} (host : Host σ) (es fs : List Expr) :
    evalAll host (es ++ fs) =
      evalAll host es >>= fun vs => evalAll host fs >>= fun ws => pure (vs ++ ws) := by
  induction es with
  | nil => simp [evalAll]
  | cons e es ih => simp [evalAll, ih]

namespace Context

variable {c : Context} (clock : Int64)

/-- What expressions leave behind, one after the other, when all of them have values. -/
def traceOfValues? (c : Context) (clock : Int64) : List Expr → Option Trace
  | [] => some .empty
  | e :: es =>
    match (c.evaluate clock e).1.result with
    | .ok _ => (c.traceOfValues? clock es).map ((c.evaluate clock e).1.trace ++ ·)
    | .error _ => none

/-- What an evaluation leaves behind until it comes to a place: the labels around the place, and
what the arguments before it leave. It does not come there when one of these fails, or when a call
around the place has more arguments than any function takes. -/
def leadTo? (c : Context) (clock : Int64) : Place → Option Trace
  | .here => some .empty
  | .recorded label p => (c.leadTo? clock p).map (.label label ++ ·)
  | .argument function before p after _ =>
    if before.length + after.length < 3 then do
      let values ← c.traceOfValues? clock before
      let inner ← c.leadTo? clock p
      some (.record (.call function (before.length + after.length + 1)) ++ values ++ inner)
    else none

theorem exists_gives_values {es : List Expr} {t : Trace}
    (h : c.traceOfValues? clock es = some t) :
    ∃ values, Eval.Gives c (Expr.evalAll (host clock) es) (.ok values) t := by
  induction es generalizing t with
  | nil =>
    cases h
    exact ⟨[], Eval.gives_pure []⟩
  | cons e es ih =>
    have he := gives_eval (c := c) clock e
    rw [traceOfValues?] at h
    split at h
    · rename_i v hv
      rw [hv] at he
      obtain ⟨rest, hrest, rfl⟩ := Option.map_eq_some_iff.1 h
      obtain ⟨values, hvalues⟩ := ih hrest
      refine ⟨v :: values, ?_⟩
      rw [← Trace.append_empty rest]
      exact Eval.gives_bind he (Eval.gives_bind hvalues (Eval.gives_pure _))
    · cases h

theorem exists_gives_failure {es : List Expr} (h : c.traceOfValues? clock es = none) :
    ∃ err t, ∀ rest, Eval.Gives c (Expr.evalAll (host clock) (es ++ rest)) (.error err) t := by
  induction es with
  | nil => cases h
  | cons e es ih =>
    have he := gives_eval (c := c) clock e
    rw [traceOfValues?] at h
    split at h
    · rename_i v hv
      rw [hv] at he
      obtain ⟨err, t, ht⟩ := ih (Option.map_eq_none_iff.1 h)
      exact ⟨err, _, fun rest => Eval.gives_bind he (Eval.gives_bind_of_error (ht rest) _)⟩
    · rename_i err hv
      rw [hv] at he
      exact ⟨err, _, fun rest => Eval.gives_bind_of_error he _⟩

/-- Behind one argument, the arguments go on from its result. -/
theorem follows_evalAll {before : List Expr} {values : List Value} {t : Trace}
    (hbefore : Eval.Gives c (Expr.evalAll (host clock) before) (.ok values) t)
    (after : List Expr) :
    Eval.Follows c t (fun e : Expr => e.eval (host clock))
      fun e => Expr.evalAll (host clock) (before ++ e :: after) := by
  have hrest : ∀ v, ∃ result t, Eval.Gives c
      (Expr.evalAll (host clock) after >>= fun ws => pure (v :: ws)) result t := by
    intro v
    obtain ⟨result, t, h⟩ := exists_gives_evalAll (c := c) clock after
    cases result with
    | ok ws => exact ⟨_, _, Eval.gives_bind h (Eval.gives_pure _)⟩
    | error err => exact ⟨_, _, Eval.gives_bind_of_error h _⟩
  have hbehind : Eval.Follows c .empty (fun e : Expr => e.eval (host clock))
      fun e => Expr.evalAll (host clock) (e :: after) :=
    Eval.follows_behind (Eval.follows_refl c _) hrest
  have hall : Eval.Follows c (t ++ .empty) (fun e : Expr => e.eval (host clock)) fun e =>
      Expr.evalAll (host clock) before >>= fun vs =>
        Expr.evalAll (host clock) (e :: after) >>= fun ws => pure (vs ++ ws) :=
    Eval.follows_before hbefore
      (Eval.follows_behind hbehind fun ws => ⟨_, _, Eval.gives_pure (values ++ ws)⟩)
  simpa only [Expr.evalAll_append, Trace.append_empty] using hall

theorem length_around (before after : List Expr) (e : Expr) :
    (before ++ e :: after).length = before.length + after.length + 1 := by
  simp only [List.length_append, List.length_cons]
  omega

/-- Behind one argument, the call goes on from its result. -/
theorem follows_call {before after : List Expr} {values : List Value} {t : Trace}
    (hcount : before.length + after.length < 3)
    (hbefore : Eval.Gives c (Expr.evalAll (host clock) before) (.ok values) t) (name : String)
    (settings : Settings) :
    Eval.Follows c (.record (.call name (before.length + after.length + 1)) ++ t)
      (fun e : Expr => e.eval (host clock))
      fun e => (Expr.call name (before ++ e :: after) settings).eval (host clock) := by
  by_cases hexists : name = "exists" ∧ before.length + after.length = 0
  · obtain ⟨rfl, hnil⟩ := hexists
    obtain rfl : before = [] := List.eq_nil_of_length_eq_zero (by omega)
    obtain rfl : after = [] := List.eq_nil_of_length_eq_zero (by omega)
    exact Eval.follows_before (Eval.gives_log _) (Eval.follows_present
      (Eval.follows_behind (follows_evalAll clock hbefore [])
        fun vs => ⟨_, _, Eval.gives_pure (vs.headD .null)⟩))
  · have hdirect : ∀ e : Expr, Direct name (before ++ e :: after).length := by
      intro e
      rw [length_around]
      exact ⟨by omega, by omega, fun h => hexists ⟨h.1, by omega⟩⟩
    simp only [fun e => Expr.eval_call_of_direct (host clock) name settings (hdirect e),
      length_around]
    exact Eval.follows_before (Eval.gives_log _) (Eval.follows_behind
      (follows_evalAll clock hbefore after)
      fun vs => exists_gives_callValues clock settings name vs)

/-- When an argument fails, the call does not come to those behind it. It is no `exists`, which has
one argument only. -/
theorem exists_gives_call_of_failure {before : List Expr}
    (hbefore : c.traceOfValues? clock before = none) (after : List Expr)
    (hcount : before.length + after.length < 3) (name : String) (settings : Settings) :
    ∃ result t, ∀ e, Eval.Gives c
      ((Expr.call name (before ++ e :: after) settings).eval (host clock)) result t := by
  obtain ⟨err, t, hfails⟩ := exists_gives_failure clock hbefore
  have hpos : 0 < before.length := by
    refine List.length_pos_iff.2 ?_
    rintro rfl
    cases hbefore
  have hdirect : ∀ e, Direct name (before ++ e :: after).length := by
    intro e
    rw [length_around]
    exact ⟨by omega, by omega, fun h => by omega⟩
  refine ⟨.error err, .record (.call name (before.length + after.length + 1)) ++ t, fun e => ?_⟩
  rw [Expr.eval_call_of_direct (host clock) name settings (hdirect e), length_around]
  exact Eval.gives_bind (Eval.gives_log _) (Eval.gives_bind_of_error (hfails _) _)

theorem gives_call_of_many {before after : List Expr} (hcount : 3 ≤ before.length + after.length)
    (name : String) (settings : Settings) (e : Expr) :
    Eval.Gives c ((Expr.call name (before ++ e :: after) settings).eval (host clock))
      (.error (.argumentCount name (before.length + after.length + 1)))
      (.record (.call name (before.length + after.length + 1)) ++ .empty) := by
  have hmany : 3 < (before ++ e :: after).length := by
    rw [length_around]
    omega
  rw [Expr.eval_call_of_three_lt (host clock) name settings hmany, length_around]
  exact Eval.gives_bind (Eval.gives_log _) (Eval.gives_throw _)

/-- When an evaluation comes to a place, the rest of it goes on from what the place gives. -/
theorem follows_fill {p : Place} {lead : Trace} (h : c.leadTo? clock p = some lead) :
    Eval.Follows c lead (fun e : Expr => e.eval (host clock))
      fun e => (p.fill e).eval (host clock) := by
  induction p generalizing lead with
  | here =>
    cases h
    exact Eval.follows_refl c _
  | recorded label p ih =>
    obtain ⟨inner, hinner, rfl⟩ := Option.map_eq_some_iff.1 h
    exact Eval.follows_before (Eval.gives_note label) (ih hinner)
  | argument name before p after settings ih =>
    rw [leadTo?] at h
    split at h
    · rename_i hcount
      obtain ⟨t, ht, h⟩ := Option.bind_eq_some_iff.1 h
      obtain ⟨inner, hinner, h⟩ := Option.bind_eq_some_iff.1 h
      cases h
      obtain ⟨values, hvalues⟩ := exists_gives_values clock ht
      exact Eval.follows_trans (ih hinner)
        (Eval.follows_comp (follows_call clock hcount hvalues name settings) p.fill)
    · cases h

/-- When an evaluation does not come to a place, it is the same for everything in the place. -/
theorem exists_gives_fill {p : Place} (h : c.leadTo? clock p = none) :
    ∃ result t, ∀ e, Eval.Gives c ((p.fill e).eval (host clock)) result t := by
  induction p with
  | here => cases h
  | recorded label p ih =>
    obtain ⟨result, t, ht⟩ := ih (Option.map_eq_none_iff.1 h)
    exact ⟨result, _, fun e => Eval.gives_bind (Eval.gives_note label) (ht e)⟩
  | argument name before p after settings ih =>
    rw [leadTo?] at h
    split at h
    · rename_i hcount
      rcases ht : c.traceOfValues? clock before with _ | t
      · obtain ⟨result, t, hcall⟩ := exists_gives_call_of_failure clock ht after hcount name settings
        exact ⟨result, t, fun e => hcall (p.fill e)⟩
      · have hinner : c.leadTo? clock p = none := by
          rcases hp : c.leadTo? clock p with _ | lead
          · rfl
          · rw [ht, hp] at h
            cases h
        obtain ⟨inner, t', hinner⟩ := ih hinner
        obtain ⟨values, hvalues⟩ := exists_gives_values clock ht
        obtain ⟨result, rest, hcall⟩ := follows_call clock hcount hvalues name settings inner
        exact ⟨result, _, fun e => hcall (p.fill e) t' (hinner e)⟩
    · rename_i hcount
      exact ⟨_, _, fun e => gives_call_of_many clock (by omega) name settings (p.fill e)⟩

end Context

/-! ## Folding -/

theorem Expr.everyCallIn_around {q : String → Nat → Settings → Prop} {before after : List Expr}
    {e : Expr} :
    EveryCallIn q (before ++ e :: after) ↔
      EveryCallIn q before ∧ e.EveryCall q ∧ EveryCallIn q after := by
  induction before with
  | nil => simp [EveryCallIn]
  | cons b before ih => simp only [List.cons_append, EveryCallIn, ih, and_assoc]

/-- The calls of a filled expression are those around the place and those of the part. -/
theorem Place.everyCall_fill {q : String → Nat → Settings → Prop} {p : Place} {e : Expr}
    (h : (p.fill e).EveryCall q) :
    e.EveryCall q ∧ ∀ e' : Expr, e'.EveryCall q → (p.fill e').EveryCall q := by
  induction p with
  | here => exact ⟨h, fun _ he' => he'⟩
  | recorded label p ih => exact ih h
  | argument name before p after settings ih =>
    obtain ⟨hcall, hin⟩ := h
    obtain ⟨hbefore, hfill, hafter⟩ := Expr.everyCallIn_around.1 hin
    obtain ⟨he, hother⟩ := ih hfill
    refine ⟨he, fun e' he' => ⟨?_, Expr.everyCallIn_around.2 ⟨hbefore, hother e' he', hafter⟩⟩⟩
    rwa [Context.length_around, ← Context.length_around before after (p.fill e)]

/-- A part that has a value may give way to it. The result of the whole stays the same, whether it
is a value or a failure. When the evaluation comes to the part, all that is missing afterwards is
what the part leaves behind, right after what led to it. When the evaluation does not come there,
nothing is missing, and anything else in the place would do as well. -/
theorem Context.a_part_may_give_way_to_its_value (c : Context) (p : Place) (part : Expr) (v : Value)
    (clock clock' clock'' : Int64) (htimeless : (p.fill part).Timeless)
    (hvalue : (c.evaluate clock part).1.result = .ok v) :
    let whole := (c.evaluate clock' (p.fill part)).1
    let folded := (c.evaluate clock'' (p.fill (.literal v))).1
    folded.result = whole.result ∧
    (∀ lead, c.leadTo? clock p = some lead → ∃ rest,
      whole.trace = lead ++ (c.evaluate clock part).1.trace ++ rest ∧
      folded.trace = lead ++ rest) ∧
    (c.leadTo? clock p = none → folded = whole ∧
      ∀ other, (c.evaluate clock (p.fill other)).1 = whole) := by
  intro whole folded
  have hfolded : (p.fill (.literal v)).Timeless := (Place.everyCall_fill htimeless).2 _ trivial
  -- Nothing asks for the time, so all evaluations may as well be at the same time.
  have hwhole : whole = (c.evaluate clock (p.fill part)).1 :=
    (evaluate_sideBySide (.refl c) clock' clock _ (Or.inr htimeless)).1
  have hfolded : folded = (c.evaluate clock (p.fill (.literal v))).1 :=
    (evaluate_sideBySide (.refl c) clock'' clock _ (Or.inr hfolded)).1
  rw [hwhole, hfolded]
  rcases hlead : c.leadTo? clock p with _ | lead
  · obtain ⟨result, t, ht⟩ := exists_gives_fill (c := c) clock hlead
    have hsame : ∀ other, (c.evaluate clock (p.fill other)).1 = ⟨result, t.calls, t.journal, t.log⟩ :=
      fun other => evaluate_eq_of_gives (ht other)
    simp [hsame]
  · have hpart := gives_eval (c := c) clock part
    rw [hvalue] at hpart
    obtain ⟨result, rest, hrest⟩ := follows_fill (c := c) clock hlead (.ok v)
    have hliteral := hrest (.literal v) .empty (Eval.gives_pure v)
    rw [Trace.append_empty] at hliteral
    rw [evaluate_eq_of_gives (hrest part _ hpart), evaluate_eq_of_gives hliteral]
    refine ⟨rfl, ?_, by simp⟩
    rintro _ ⟨⟩
    exact ⟨rest, rfl, rfl⟩

/-- A secret inside an argument of a call that fails below an `exists`. Only the look-up of the
secret and the label above it are missing. -/
theorem Context.a_secret_may_give_way_to_its_value :
    let c := empty.withSecret "alias" "key"
    let part := Expr.recorded "first" (.call "secret" [.literal (.string "alias")] .default)
    let p := Place.argument "exists" [] (.argument "registry" [] .here
      [.recorded "second" (.literal (.string "name"))] .default) [] .default
    let whole := (c.evaluate 0 (p.fill part)).1
    let folded := (c.evaluate 1 (p.fill (.literal (.string "key")))).1
    (p.fill part).Timeless ∧ (c.evaluate 2 part).1.result = .ok (.string "key") ∧
      folded.result = .ok (.boolean false) ∧ whole.result = .ok (.boolean false) ∧
      whole.calls = [.secret "alias", .property "key" "name"] ∧
      folded.calls = [.property "key" "name"] ∧
      whole.journal = ["first", "second"] ∧ folded.journal = ["second"] := by
  intro c part p whole folded
  have htimeless : (p.fill part).Timeless := by
    simp [p, part, Place.fill, Expr.Timeless, Expr.EveryCall, Expr.EveryCallIn]
  have hvalue : (c.evaluate 2 part).1.result = .ok (.string "key") := by
    simp only [c, part]
    rfl
  obtain ⟨hresult, hreached, -⟩ :=
    a_part_may_give_way_to_its_value c p part (.string "key") 2 0 1 htimeless hvalue
  have hpart : (c.evaluate 2 part).1.trace = ⟨[.secret "alias"], ["first"],
      [.call "secret" 1, .source "secret" "String"]⟩ := by
    simp only [c, part]
    rfl
  have hlead : c.leadTo? 2 p = some ⟨[], [], [.call "exists" 1, .call "registry" 2]⟩ := by
    simp only [c, p]
    rfl
  have hwhole : whole.result = .ok (.boolean false) := by
    simp only [whole, c, part, p]
    rfl
  have htrace : whole.calls = [.secret "alias", .property "key" "name"] ∧
      whole.journal = ["first", "second"] := by
    simp only [whole, c, part, p]
    exact ⟨rfl, rfl⟩
  -- What follows the part is known from the whole, and stays when the part is folded.
  obtain ⟨rest, hall, hfolded⟩ := hreached _ hlead
  rw [hpart] at hall
  have hcalls : Lookup.secret "alias" :: rest.calls = [.secret "alias", .property "key" "name"] :=
    (congrArg Trace.calls hall).symm.trans htrace.1
  have hjournal : "first" :: rest.journal = ["first", "second"] :=
    (congrArg Trace.journal hall).symm.trans htrace.2
  refine ⟨htimeless, hvalue, hresult.trans hwhole, hwhole, htrace.1, ?_, htrace.2, ?_⟩
  · exact (congrArg Trace.calls hfolded).trans (List.cons.inj hcalls).2
  · exact (congrArg Trace.journal hfolded).trans (List.cons.inj hjournal).2

end Predefined
