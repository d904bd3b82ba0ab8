-- Settings that give way to laxer ones. Only two functions read their settings: `round` asks what
-- to do with a number that no integer is near to, and `secret` asks how an answer to an unknown
-- alias starts. Laxer settings turn failures of these two into values and leave their values alone,
-- and every other step goes on from the same values. So an evaluation that succeeds stays what it
-- is.
import Predefined.Proofs.Session

namespace Predefined

variable {σ α β : Type}

/-! ## Laxer settings -/

/-- What may stand for a policy: itself, or saturation for failure. -/
def OverflowPolicy.Relaxes (p q : OverflowPolicy) : Prop :=
  q = p ∨ p = .fail ∧ q = .saturate

/-- What settings may stand for others at a call. Only two calls ask anything of them, each about
one of the two. -/
structure Settings.Relaxes (name : String) (count : Nat) (s t : Settings) : Prop where
  overflow : name = "round" → count = 1 → s.overflow.Relaxes t.overflow
  vaultPrefix : name = "secret" → count = 1 → s.vaultPrefix.toList <+: t.vaultPrefix.toList

namespace Expr

mutual

/-- The second expression is the first one with other settings at its calls, which may stand there
for those of the first. -/
inductive Relaxes : Expr → Expr → Prop
  | literal (v : Value) : Relaxes (.literal v) (.literal v)
  | failing (text : String) : Relaxes (.failing text) (.failing text)
  | recorded (label : String) {e e' : Expr} (h : Relaxes e e') :
    Relaxes (.recorded label e) (.recorded label e')
  | call (name : String) {es es' : List Expr} {s t : Settings} (h : RelaxesAll es es')
    (hsettings : s.Relaxes name es.length t) : Relaxes (.call name es s) (.call name es' t)

inductive RelaxesAll : List Expr → List Expr → Prop
  | nil : RelaxesAll [] []
  | cons {e e' : Expr} {es es' : List Expr} (h : Relaxes e e') (hs : RelaxesAll es es') :
    RelaxesAll (e :: es) (e' :: es')

end

theorem RelaxesAll.length_eq {es es' : List Expr} (h : RelaxesAll es es') :
    es.length = es'.length := by
  match h with
  | .nil => rfl
  | .cons _ hs => rw [List.length_cons, List.length_cons, length_eq hs]

mutual

/-- What does not speak of settings holds of the calls of both. -/
theorem Relaxes.everyCall {p : String → Nat → Prop} {e e' : Expr} (h : Relaxes e e')
    (he : e.EveryCall fun name count _ => p name count) :
    e'.EveryCall fun name count _ => p name count := by
  match h, he with
  | .literal _, _ | .failing _, _ => trivial
  | .recorded _ h, he => exact h.everyCall he
  | .call _ hs _, ⟨hp, hes⟩ => exact ⟨hs.length_eq ▸ hp, hs.everyCallIn hes⟩

theorem RelaxesAll.everyCallIn {p : String → Nat → Prop} {es es' : List Expr}
    (h : RelaxesAll es es') (hes : EveryCallIn (fun name count _ => p name count) es) :
    EveryCallIn (fun name count _ => p name count) es' := by
  match h, hes with
  | .nil, _ => trivial
  | .cons h hs, ⟨he, hes⟩ => exact ⟨h.everyCall he, hs.everyCallIn hes⟩

end

end Expr

/-! ## Steps that keep values -/

namespace Eval

/-- Where the first step gives a value, the second gives it too, and leaves the same run behind. -/
def KeptBy (m n : Eval σ α) : Prop :=
  ∀ r a s, m.exec r = (.ok a, s) → n.exec r = (.ok a, s)

theorem keptBy_refl (m : Eval σ α) : KeptBy m m :=
  fun _ _ _ h => h

theorem keptBy_ofExcept {x y : Except EvalError α} (h : ∀ a, x = .ok a → y = .ok a) :
    KeptBy (ofExcept x : Eval σ α) (ofExcept y) := by
  intro r a s hx
  rw [exec_ofExcept] at hx ⊢
  obtain ⟨hok, rfl⟩ := Prod.mk.inj hx
  rw [h a hok]

/-- What comes behind a first step needs to keep values for those that the first step gives only. -/
theorem keptBy_bind_of_ok {m n : Eval σ α} {f g : α → Eval σ β} (hmn : KeptBy m n)
    (hfg : ∀ r a s, m.exec r = (.ok a, s) → KeptBy (f a) (g a)) : KeptBy (m >>= f) (n >>= g) := by
  intro r b t h
  rw [exec_bind_eq_ok] at h ⊢
  obtain ⟨a, s, hm, hf⟩ := h
  exact ⟨a, s, hmn r a s hm, hfg r a s hm s b t hf⟩

theorem keptBy_bind {m n : Eval σ α} {f g : α → Eval σ β} (hmn : KeptBy m n)
    (hfg : ∀ a, KeptBy (f a) (g a)) : KeptBy (m >>= f) (n >>= g) :=
  keptBy_bind_of_ok hmn fun _ a _ _ => hfg a

theorem keptBy_behind (m : Eval σ α) {f g : α → Eval σ β} (hfg : ∀ a, KeptBy (f a) (g a)) :
    KeptBy (m >>= f) (m >>= g) :=
  keptBy_bind (keptBy_refl m) hfg

end Eval

/-! ## The functions that read their settings -/

/-- Saturation only answers where there was a failure before. -/
theorem Value.round_eq_ok_of_relaxes {p q : OverflowPolicy} (h : p.Relaxes q) {v w : Value}
    (hround : v.round p = .ok w) : v.round q = .ok w := by
  rcases h with rfl | ⟨rfl, rfl⟩
  · exact hround
  · cases v with
    | double d =>
      unfold round at hround ⊢
      dsimp only at hround ⊢
      split at hround
      · rename_i hfits
        rw [if_pos hfits]
        exact hround
      · cases hround
    | _ => exact hround

/-- An answer without the shorter mark has not got the longer one. -/
theorem keptBy_secretValue (host : Host σ) {s t : Settings}
    (h : s.vaultPrefix.toList <+: t.vaultPrefix.toList) (key : Value) :
    Eval.KeptBy (host.secretValue s key) (host.secretValue t key) := by
  refine Eval.keptBy_behind _ fun reply => ?_
  cases reply with
  | error e => exact Eval.keptBy_refl _
  | ok value =>
    dsimp only
    by_cases hmark : s.vaultPrefix.toList.isPrefixOf value.toList = true
    · rw [if_pos hmark]
      intro r v r' hfails
      cases hfails
    · have hlonger : ¬ t.vaultPrefix.toList.isPrefixOf value.toList = true := by
        rw [List.isPrefixOf_iff_prefix] at hmark ⊢
        exact fun ht => hmark (h.trans ht)
      rw [if_neg hmark, if_neg hlonger]
      exact Eval.keptBy_refl _

theorem keptBy_unary (host : Host σ) {s t : Settings} {f : Unary}
    (h : s.Relaxes f.name 1 t) (v : Value) : Eval.KeptBy (f.apply host s v) (f.apply host t v) := by
  cases f with
  | round => exact Eval.keptBy_ofExcept fun _ => Value.round_eq_ok_of_relaxes (h.overflow rfl rfl)
  | secret => exact keptBy_secretValue host (h.vaultPrefix rfl rfl) v
  | _ => exact Eval.keptBy_refl _

/-! ## Evaluations -/

theorem keptBy_callValues (host : Host σ) {s t : Settings} {name : String} {values : List Value}
    (h : s.Relaxes name values.length t) :
    Eval.KeptBy (callValues host s name values) (callValues host t name values) := by
  refine Eval.keptBy_behind _ fun _ => ?_
  match values, h with
  | [v], h =>
    dsimp only
    rcases hf : Unary.ofName? name with _ | f
    · exact Eval.keptBy_refl _
    · rw [← Unary.name_of_ofName? hf] at h
      exact Eval.keptBy_behind _ fun _ => keptBy_unary host h v
  | [], _ | [_, _], _ | [_, _, _], _ | _ :: _ :: _ :: _ :: _, _ => exact Eval.keptBy_refl _

namespace Expr

mutual

theorem Relaxes.keptBy_eval (host : Host σ) {e e' : Expr} (h : Relaxes e e') (hno : e.NoExists) :
    Eval.KeptBy (e.eval host) (e'.eval host) := by
  match h, hno with
  | .literal v, _ => exact Eval.keptBy_refl _
  | .failing text, _ => exact Eval.keptBy_refl _
  | .recorded label h, hno => exact Eval.keptBy_behind _ fun _ => h.keptBy_eval host hno
  | @Relaxes.call name es es' s t hs hsettings, ⟨hexists, hes⟩ =>
    have hlength := hs.length_eq
    rcases call_forms name es with rfl | ⟨rfl, e, rfl⟩ | hdirect | hmany
    · cases hs
      exact Eval.keptBy_refl _
    · exact absurd ⟨rfl, rfl⟩ hexists
    · rw [eval_call_of_direct host name s hdirect,
        eval_call_of_direct host name t (hlength ▸ hdirect), ← hlength]
      refine Eval.keptBy_behind _ fun _ => ?_
      refine Eval.keptBy_bind_of_ok (hs.keptBy_evalAll host hes) fun r vs r' hvs => ?_
      -- There are as many values as arguments, so the settings are those of the node's function.
      exact keptBy_callValues host (length_of_evalAll hvs ▸ hsettings)
    · rw [eval_call_of_three_lt host name s hmany]
      intro r v r' h
      cases h

theorem RelaxesAll.keptBy_evalAll (host : Host σ) {es es' : List Expr} (h : RelaxesAll es es')
    (hno : EveryCallIn (fun name count _ => ¬ (name = "exists" ∧ count = 1)) es) :
    Eval.KeptBy (evalAll host es) (evalAll host es') := by
  match h, hno with
  | .nil, _ => exact Eval.keptBy_refl _
  | .cons h hs, ⟨he, hes⟩ =>
    refine Eval.keptBy_bind (h.keptBy_eval host he) fun v => ?_
    exact Eval.keptBy_bind (hs.keptBy_evalAll host hes) fun vs => Eval.keptBy_refl _

end

end Expr

namespace Context

theorem evaluate_eq_of_keptBy {c : Context} {clock : Int64} {e e' : Expr} {v : Value}
    (h : Eval.KeptBy (e.eval (host clock)) (e'.eval (host clock)))
    (hv : (c.evaluate clock e).1.result = .ok v) : c.evaluate clock e' = c.evaluate clock e := by
  unfold evaluate at hv ⊢
  rcases hrun : (e.eval (host clock)).exec (Run.start c) with ⟨result, run⟩
  rw [hrun] at hv
  obtain rfl : result = .ok v := hv
  rw [h _ _ _ hrun]

/-- An expression that gives a value gives the same value under laxer settings, with the same
look-ups, the same journal and the same log. No `exists` may stand in it, which would answer to a
failure that is gone. -/
theorem relaxed_settings_keep_every_value (c : Context) (clock clock' : Int64) (e e' : Expr)
    (h : e.Relaxes e') (hno : e.NoExists) (htimeless : e.Timeless) (v : Value)
    (hv : (c.evaluate clock e).1.result = .ok v) :
    let strict := (c.evaluate clock e).1
    let relaxed := (c.evaluate clock' e').1
    relaxed.result = .ok v ∧ relaxed.calls = strict.calls ∧ relaxed.journal = strict.journal ∧
      relaxed.log = strict.log := by
  intro strict relaxed
  -- Nothing asks for the time, so both evaluations may as well be at the same time.
  have hclock : relaxed = (c.evaluate clock e').1 :=
    (evaluate_sideBySide (.refl c) clock' clock e' (Or.inr (h.everyCall htimeless))).1
  have hsame : relaxed = strict := by
    rw [hclock, evaluate_eq_of_keptBy (h.keptBy_eval (host clock) hno) hv]
  rw [hsame]
  exact ⟨hv, rfl, rfl, rfl⟩

/-- The secret starts like the marks but with neither of them, and a half is rounded to an integer
of 64 bits. The call around them has quite other settings. -/
theorem a_laxer_mark_and_policy_change_no_answer :
    let c := empty.withSecret "alias" "wso"
    let half := Value.double (.finite false 0x3FE0000000000000 (by decide))
    let tree (inner outer : Settings) := Expr.call "substring"
      [.call "secret" [.literal (.string "alias")] inner,
        .recorded "start" (.call "round" [.literal half] inner)] outer
    let e := tree ⟨"wso2", .fail⟩ ⟨"wso", .saturate⟩
    let e' := tree ⟨"wso2:vault-lookup(", .saturate⟩ .default
    e.Relaxes e' ∧ e.NoExists ∧ e.Timeless ∧ (c.evaluate 0 e).1.result = .ok (.string "so") ∧
      (c.evaluate 1 e').1.result = .ok (.string "so") ∧
      (c.evaluate 1 e').1.calls = [.secret "alias"] ∧ (c.evaluate 1 e').1.journal = ["start"] := by
  intro c half tree e e'
  have hinner : ∀ name count, Settings.Relaxes name count ⟨"wso2", .fail⟩
      ⟨"wso2:vault-lookup(", .saturate⟩ :=
    fun _ _ => ⟨fun _ _ => Or.inr ⟨rfl, rfl⟩, fun _ _ => ⟨":vault-lookup(".toList, rfl⟩⟩
  have hrelaxes : e.Relaxes e' :=
    .call _ (.cons (.call _ (.cons (.literal _) .nil) (hinner _ _))
      (.cons (.recorded _ (.call _ (.cons (.literal _) .nil) (hinner _ _))) .nil))
      ⟨by simp, by simp⟩
  have hno : e.NoExists := by simp [e, tree, Expr.NoExists, Expr.EveryCall, Expr.EveryCallIn]
  have htimeless : e.Timeless := by
    simp [e, tree, Expr.Timeless, Expr.EveryCall, Expr.EveryCallIn]
  have hstring : ∀ x : Except EvalError Value,
      x.toOption.bind Value.asString? = some "so" → x = .ok (.string "so") := by
    intro x h
    rcases x with _ | v
    · cases h
    · cases v with
      | string s => rw [← Option.some.inj h]
      | _ => cases h
  have hv : (c.evaluate 0 e).1.result = .ok (.string "so") := hstring _ (by decide +kernel)
  have hcalls : (c.evaluate 0 e).1.calls = [.secret "alias"] := by decide +kernel
  have hjournal : (c.evaluate 0 e).1.journal = ["start"] := by decide +kernel
  obtain ⟨hresult, hcalls', hjournal', -⟩ :=
    relaxed_settings_keep_every_value c 0 1 e e' hrelaxes hno htimeless _ hv
  exact ⟨hrelaxes, hno, htimeless, hv, hresult, hcalls'.trans hcalls, hjournal'.trans hjournal⟩

end Context

end Predefined
