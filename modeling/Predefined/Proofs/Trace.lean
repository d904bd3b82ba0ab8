-- What an evaluation leaves in the journal and asks of its context, in which order. It comes by
-- every node at most once, so that both traces can be read from the expression: nothing is in them
-- that the expression does not hold, and nothing in another order. When nothing fails and no
-- failure is turned into a value, nothing is missing either.
import Predefined.Proofs.Session

namespace Predefined

variable {α β : Type}

/-! ## Traces of steps -/

/-- What a run has got since: the labels in the journal, and the kinds of the look-ups. -/
structure Run.Added (r s : Run Context) (labels : List String) (kinds : List Lookup.Kind) :
    Prop where
  journal : s.journal.toList = r.journal.toList ++ labels
  calls : s.host.calls.toList.map (·.kind) = r.host.calls.toList.map (·.kind) ++ kinds

namespace Run

theorem added_of_eq {r s : Run Context} (hjournal : s.journal = r.journal)
    (hhost : s.host = r.host) : r.Added s [] [] := by
  refine ⟨?_, ?_⟩
  · rw [hjournal, List.append_nil]
  · rw [hhost, List.append_nil]

theorem Added.trans {r s t : Run Context} {js js' : List String} {ks ks' : List Lookup.Kind}
    (h : r.Added s js ks) (h' : s.Added t js' ks') : r.Added t (js ++ js') (ks ++ ks') := by
  refine ⟨?_, ?_⟩
  · rw [h'.journal, h.journal, List.append_assoc]
  · rw [h'.calls, h.calls, List.append_assoc]

end Run

/-- A step adds some of the labels and some of the look-ups, in their order, and all of them when it
gives a value and nothing hides a failure. -/
def Eval.Traced (whole : Prop) (labels : List String) (kinds : List Lookup.Kind)
    (m : Eval Context α) : Prop :=
  ∀ r, ∃ js ks, r.Added (m.exec r).2 js ks ∧ js.Sublist labels ∧ ks.Sublist kinds ∧
    (whole → ∀ a, (m.exec r).1 = .ok a → js = labels ∧ ks = kinds)

namespace Eval

variable {whole whole' : Prop} {labels labels' : List String} {kinds kinds' : List Lookup.Kind}

theorem traced_mono {m : Eval Context α} (hw : whole' → whole) (h : Traced whole labels kinds m) :
    Traced whole' labels kinds m := by
  intro r
  obtain ⟨js, ks, hadded, hjs, hks, hall⟩ := h r
  exact ⟨js, ks, hadded, hjs, hks, fun h' => hall (hw h')⟩

theorem traced_of_kept {m : Eval Context α}
    (hjournal : ∀ r, (m.exec r).2.journal = r.journal) (hhost : ∀ r, (m.exec r).2.host = r.host) :
    Traced whole [] [] m := by
  intro r
  refine ⟨[], [], Run.added_of_eq (hjournal r) (hhost r), List.Sublist.slnil,
    List.Sublist.slnil, ?_⟩
  exact fun _ _ _ => ⟨rfl, rfl⟩

theorem traced_pure (a : α) : Traced whole [] [] (pure a) :=
  traced_of_kept (fun _ => rfl) fun _ => rfl

theorem traced_log (record : LogRecord) : Traced whole [] [] (log record) :=
  traced_of_kept (fun _ => rfl) fun _ => rfl

/-- A failure cuts the rest of both traces off. -/
theorem traced_throw (e : EvalError) : Traced (α := α) whole labels kinds (throw e) := by
  refine fun r => ⟨[], [], Run.added_of_eq rfl rfl, List.nil_sublist _, List.nil_sublist _, ?_⟩
  intro _ a ha
  simp at ha

theorem traced_note (label : String) : Traced whole [label] [] (note label) := by
  refine fun r => ⟨[label], [], ⟨?_, ?_⟩, List.Sublist.refl _, List.Sublist.slnil,
    fun _ _ _ => ⟨rfl, rfl⟩⟩
  · simp [Run.noted]
  · simp [Run.noted]

theorem traced_ask (clock : Int64) (q : Lookup) :
    Traced whole [] [q.kind] (ask ((Context.host clock).reply q)) := by
  refine fun r => ⟨[], [q.kind], ⟨?_, ?_⟩, List.Sublist.slnil, List.Sublist.refl _,
    fun _ _ _ => ⟨rfl, rfl⟩⟩
  · simp
  · simp [Context.host_reply, Context.record]

theorem traced_bind_of_ok {m : Eval Context α} {f : α → Eval Context β}
    (hm : Traced whole labels kinds m)
    (hf : ∀ r a s, m.exec r = (.ok a, s) → Traced whole labels' kinds' (f a)) :
    Traced whole (labels ++ labels') (kinds ++ kinds') (m >>= f) := by
  intro r
  obtain ⟨js, ks, hadded, hjs, hks, hall⟩ := hm r
  rw [exec_bind]
  rcases hrun : m.exec r with ⟨x, s⟩
  rw [hrun] at hadded hall
  cases x with
  | error e =>
    refine ⟨js, ks, hadded, hjs.trans (List.sublist_append_left _ _),
      hks.trans (List.sublist_append_left _ _), ?_⟩
    intro _ b hb
    simp at hb
  | ok a =>
    obtain ⟨js', ks', hadded', hjs', hks', hall'⟩ := hf r a s hrun s
    refine ⟨js ++ js', ks ++ ks', hadded.trans hadded', hjs.append hjs', hks.append hks', ?_⟩
    intro hw b hb
    obtain ⟨rfl, rfl⟩ := hall hw a rfl
    obtain ⟨rfl, rfl⟩ := hall' hw b hb
    exact ⟨rfl, rfl⟩

theorem traced_bind {m : Eval Context α} {f : α → Eval Context β}
    (hm : Traced whole labels kinds m) (hf : ∀ a, Traced whole labels' kinds' (f a)) :
    Traced whole (labels ++ labels') (kinds ++ kinds') (m >>= f) :=
  traced_bind_of_ok hm fun _ a _ _ => hf a

theorem traced_log_bind (record : LogRecord) {m : Eval Context α}
    (h : Traced whole labels kinds m) : Traced whole labels kinds (log record >>= fun _ => m) :=
  traced_bind (traced_log record) fun _ => h

theorem traced_logs (records : List LogRecord) : Traced whole [] [] (records.forM log) := by
  induction records with
  | nil => exact traced_pure ()
  | cons record records ih => exact traced_log_bind record ih

theorem traced_ofExcept {x : Except EvalError α} (h : kinds = [] ∨ ∃ e, x = .error e) :
    Traced whole [] kinds (ofExcept x) := by
  rcases h with rfl | ⟨e, rfl⟩
  · cases x with
    | ok a => exact traced_pure a
    | error e => exact traced_throw e
  · exact traced_throw e

theorem traced_conclude (records : List LogRecord) {x : Except EvalError α}
    (h : kinds = [] ∨ ∃ e, x = .error e) : Traced whole [] kinds (conclude records x) :=
  traced_bind (traced_logs records) fun _ => traced_ofExcept h

/-- A failure that is turned into a value keeps what its step left behind, which may be a part. -/
theorem traced_present {m : Eval Context Value} (h : Traced whole labels kinds m) :
    Traced False labels kinds (present m) := by
  intro r
  obtain ⟨js, ks, hadded, hjs, hks, -⟩ := h r
  rcases hrun : m.exec r with ⟨_ | v, s⟩
  · rw [present_of_error hrun]
    rw [hrun] at hadded
    exact ⟨js, ks, ⟨hadded.journal, hadded.calls⟩, hjs, hks, False.elim⟩
  · rw [present_of_ok hrun]
    rw [hrun] at hadded
    exact ⟨js, ks, hadded, hjs, hks, False.elim⟩

end Eval

/-! ## Traces of calls -/

section Calls

variable {whole : Prop} (clock : Int64)

theorem traced_plan (settings : Settings) {kind? : Option Lookup.Kind} {plan : Plan}
    (h : plan.Fits kind?) :
    Eval.Traced whole [] kind?.toList (plan.perform (Context.host clock) settings) := by
  cases plan with
  | answer records result =>
    refine Eval.traced_conclude records ?_
    rcases h with rfl | herror
    · exact Or.inl rfl
    · exact Or.inr herror
  | ask records q =>
    have hkind : kind?.toList = [q.kind] := by rw [show kind? = some q.kind from h]; rfl
    rw [hkind]
    refine Eval.traced_bind (Eval.traced_logs records) fun _ => ?_
    exact Eval.traced_bind (Eval.traced_ask clock q) fun _ => Eval.traced_conclude _ (Or.inl rfl)

theorem traced_callValues (settings : Settings) (name : String) (values : List Value) :
    Eval.Traced whole [] (lookupKind? name values.length).toList
      (callValues (Context.host clock) settings name values) := by
  obtain ⟨plan, hfits, hplan⟩ := callValues_plan settings name values
  rw [hplan]
  exact traced_plan clock settings hfits

theorem traced_callNullary (name : String) :
    Eval.Traced whole [] [] (callNullary (Context.host clock) name) := by
  rw [callNullary]
  rcases Nullary.ofName? name with _ | f
  · exact Eval.traced_throw _
  · cases f with
    | now => exact Eval.traced_pure _

/-! ## Traces of expressions -/

namespace Expr

mutual

theorem traced_eval (e : Expr) :
    Eval.Traced e.NoExists e.labels e.lookups (e.eval (Context.host clock)) := by
  match e with
  | literal v => exact Eval.traced_pure v
  | failing text => exact Eval.traced_throw _
  | recorded label inner =>
    exact Eval.traced_bind (Eval.traced_note label) fun _ => traced_eval inner
  | call name es settings =>
    rw [labels, lookups]
    rcases call_forms name es with rfl | ⟨rfl, e, rfl⟩ | hdirect | hmany
    · rw [eval_call_nil, List.length_nil, lookupKind?_zero]
      exact Eval.traced_log_bind _ (traced_callNullary clock name)
    · rw [eval_exists]
      refine Eval.traced_log_bind _ ?_
      -- The argument may fail half way, so nothing is said here of complete traces.
      have hkinds : lookupsIn [e] ++ (lookupKind? "exists" 1).toList = e.lookups := by
        simp [lookupsIn, lookupKind?]
      have hlabels : labelsIn [e] = e.labels := by simp [labelsIn]
      rw [hlabels]
      refine Eval.traced_mono (fun h => h.1 ⟨rfl, rfl⟩) ?_
      exact hkinds ▸ Eval.traced_present (traced_eval e)
    · rw [eval_call_of_direct _ name settings hdirect]
      refine Eval.traced_log_bind _ ?_
      rw [← List.append_nil (labelsIn es)]
      refine Eval.traced_bind_of_ok (Eval.traced_mono (fun h => h.2) (traced_evalAll es)) ?_
      intro r vs s hvs
      rw [← length_of_evalAll hvs]
      exact traced_callValues clock settings name vs
    · rw [eval_call_of_three_lt _ name settings hmany]
      exact Eval.traced_log_bind _ (Eval.traced_throw _)

theorem traced_evalAll (es : List Expr) :
    Eval.Traced (EveryCallIn (fun name count _ => ¬ (name = "exists" ∧ count = 1)) es)
      (labelsIn es) (lookupsIn es) (evalAll (Context.host clock) es) := by
  match es with
  | [] => exact Eval.traced_pure []
  | e :: es =>
    refine Eval.traced_bind (Eval.traced_mono (fun h => h.1) (traced_eval e)) fun v => ?_
    rw [← List.append_nil (labelsIn es), ← List.append_nil (lookupsIn es)]
    refine Eval.traced_bind (Eval.traced_mono (fun h => h.2) (traced_evalAll es)) fun vs => ?_
    exact Eval.traced_pure _

end

end Expr

end Calls

/-- The journal of an evaluation holds labels of the expression, in their order and each at most as
often as the expression has it, and the look-ups are of calls of the expression, the arguments of a
call before the call. When the evaluation gives a value, and no `exists` hides a failure, both are
complete. -/
theorem Context.an_evaluation_comes_by_each_node_once_at_most (c : Context) (clock : Int64)
    (e : Expr) :
    let answer := (c.evaluate clock e).1
    answer.journal.Sublist e.labels ∧
    (e.labels.Nodup → answer.journal.Nodup) ∧
    (answer.calls.map (·.kind)).Sublist e.lookups ∧
    (∀ v, answer.result = .ok v → e.NoExists →
      answer.journal = e.labels ∧ answer.calls.map (·.kind) = e.lookups) := by
  intro answer
  obtain ⟨js, ks, hadded, hjs, hks, hall⟩ := Expr.traced_eval clock e (Run.start c)
  have hjournal : answer.journal = js := hadded.journal
  have hcalls : answer.calls.map (·.kind) = ks := by
    have hdrop : answer.calls = ((e.eval (host clock)).exec (Run.start c)).2.host.calls.toList.drop
        c.calls.size := rfl
    rw [hdrop, List.map_drop, hadded.calls]
    simp [Run.start]
  rw [hjournal, hcalls]
  exact ⟨hjs, fun h => h.sublist hjs, hks, fun v hv hno => hall hno v hv⟩

/-- Two look-ups beneath recorded nodes, in a call that gives a value. -/
theorem Context.two_recorded_look_ups_leave_all_their_traces :
    let c := (empty.withResource "key" "value").withSecret "alias" "val"
    let e := Expr.recorded "all" <| .call "startsWith"
      [.recorded "left" (.call "registry" [.literal (.string "key")] .default),
        .recorded "right" (.call "secret" [.literal (.string "alias")] .default)] .default
    let answer := (c.evaluate 0 e).1
    answer.journal = ["all", "left", "right"] ∧ answer.journal.Nodup ∧
      answer.calls.map (·.kind) = [.resource, .secret] := by
  intro c e answer
  obtain ⟨-, hnodup, -, hall⟩ := an_evaluation_comes_by_each_node_once_at_most c 0 e
  have hlabels : e.labels.Nodup := by decide
  have hno : e.NoExists := by simp [e, Expr.NoExists, Expr.EveryCall, Expr.EveryCallIn]
  have hvalue : answer.result = .ok (.boolean true) := by
    simp only [answer, c, e]
    rfl
  obtain ⟨hjournal, hcalls⟩ := hall _ hvalue hno
  exact ⟨hjournal, hnodup hlabels, hcalls⟩

end Predefined
