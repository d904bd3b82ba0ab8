-- Secrets on the command line. The settings and the context may each have a mark of unknown
-- aliases, but the one in force is the one of the settings: an unknown alias is answered with it,
-- and an answer that starts with it is a failure. So what is printed is a secret of the context.
import Predefined.Proofs.CommandLine

namespace Predefined

namespace Context

/-- A secret that counts as resolved: it does not start with the mark of an unknown alias. -/
def Resolves (c : Context) (settings : Settings) (key value : String) : Prop :=
  c.secrets.get? key = some value ∧ ¬ settings.vaultPrefix.toList <+: value.toList

/-- Under the mark of the settings, an answer without the mark is a secret of the context. -/
theorem resolves_iff (c : Context) (settings : Settings) (key value : String) :
    c.Resolves settings key value ↔
      (c.withVaultPrefix settings.vaultPrefix).secret key = value ∧
        settings.vaultPrefix.toList.isPrefixOf value.toList = false := by
  have hmark : settings.vaultPrefix.toList.isPrefixOf value.toList = false ↔
      ¬ settings.vaultPrefix.toList <+: value.toList := by
    rw [← Bool.not_eq_true, List.isPrefixOf_iff_prefix]
  rw [Resolves, hmark]
  refine and_congr_left fun hvalue => ?_
  simp only [secret, withVaultPrefix]
  rcases c.secrets.get? key with _ | stored
  · refine ⟨fun h => (nomatch h), fun h => absurd ?_ hvalue⟩
    -- The answer to an unknown alias starts with the mark.
    rw [← h, Option.getD_none, String.toList_append, String.toList_append, List.append_assoc]
    exact List.prefix_append _ _
  · rw [Option.some.injEq, Option.getD_some]

/-- What a call of `secret` gives for a value. -/
theorem eval_secret (c : Context) (clock : Int64) (settings : Settings) (v : Value) :
    (c.evaluate clock (.call "secret" [.literal v] settings)).1.result =
      if v.isNull = true then .error (.nullArgument "secret" .source)
      else if settings.vaultPrefix.toList.isPrefixOf (c.secret v.text).toList then
        .error (.secretResolution v.text)
      else .ok (.string (c.secret v.text)) := by
  have hdirect : Direct "secret" [Expr.literal v].length := ⟨Nat.le_refl 1, by simp, by simp⟩
  have hvalues : Expr.evalAll (host clock) [.literal v] = pure [v] := by
    simp [Expr.evalAll, Expr.eval]
  have hresult : ∀ e,
      (c.evaluate clock e).1.result = ((e.eval (host clock)).exec (Run.start c)).1 :=
    fun _ => rfl
  rw [hresult, Expr.eval_call_of_direct (host clock) "secret" settings hdirect,
    Eval.log_bind_exec, hvalues, pure_bind]
  by_cases hnull : v.isNull = true
  · rw [if_pos hnull]
    have hrole : leftmostNull [v] = some .source := by simp [leftmostNull, Role.all, hnull]
    rw [callValues_of_null _ _ _ hrole]
    rfl
  · have hrole : leftmostNull [v] = none := leftmostNull_of_forall (by simpa using hnull)
    rw [if_neg hnull, callValues_of_present _ _ _ (List.cons_ne_nil _ _) rfl hrole]
    have hfunction : builtIn? (host clock) settings "secret" [v] =
        some (Eval.log (.source "secret" v.typeName) >>= fun _ =>
          (host clock).secretValue settings v) := rfl
    simp only [hfunction, Eval.log_bind_exec, Host.secretValue, Eval.ask_bind_exec]
    show (Eval.exec (if settings.vaultPrefix.toList.isPrefixOf (c.secret v.text).toList then _
      else _) _).1 = _
    split <;> rfl

end Context

namespace CommandLine

/-- A line that asks for a secret, with files for the context and the settings. -/
def secretLine (argument contextFile settingsFile : String) : List String :=
  ["eval", "secret", argument, "--context", contextFile, "--config", settingsFile]

variable {read : ReadFile} {argument contextFile settingsFile contextText settingsText : String}
  {context : Context} {settings : Settings}

/-- The line shows what a call of `secret` gives under the mark of the settings. -/
theorem outcome_secretLine (d : Diagnostics) (clock : Int64) (hargument : Plain argument)
    (hcontextFile : Plain contextFile) (hsettingsFile : Plain settingsFile)
    (hcontextText : read contextFile = .ok contextText)
    (hcontext : Context.parse? contextText = some context)
    (hsettingsText : read settingsFile = .ok settingsText)
    (hsettings : Settings.parse? settingsText = some settings) :
    outcome d clock read (secretLine argument contextFile settingsFile) =
      .ofResult d "secret" ((context.withVaultPrefix settings.vaultPrefix).evaluate clock
        (.call "secret" [.literal (argumentValue argument)] settings)).1.result := by
  have hsettingsRead : readSettings d read (some settingsFile) = .ok settings := by
    simp only [readSettings, Settings.load, hsettingsText, hsettings]
    rfl
  have hcontextRead : readContext d read (some contextFile) = .ok context := by
    simp only [readContext, hcontextText, hcontext]
  have hfunction : Plain "secret" := by decide
  rw [secretLine, outcome_with_files d clock read hfunction hargument hcontextFile hsettingsFile,
    Request.outcome_eq clock hsettingsRead hcontextRead rfl]
  rfl

/-- A secret that no vault resolved is never printed. What is printed is a secret of the context,
whatever mark of unknown aliases the context has of its own. -/
theorem only_a_resolved_secret_is_printed (d : Diagnostics) (clock : Int64)
    (hargument : Plain argument) (hcontextFile : Plain contextFile)
    (hsettingsFile : Plain settingsFile)
    (hcontextText : read contextFile = .ok contextText)
    (hcontext : Context.parse? contextText = some context)
    (hsettingsText : read settingsFile = .ok settingsText)
    (hsettings : Settings.parse? settingsText = some settings) :
    let v := argumentValue argument
    let result := outcome d clock read (secretLine argument contextFile settingsFile)
    (result.exitCode = 0 ↔ v.isNull = false ∧ ∃ w, context.Resolves settings v.text w) ∧
    (∀ w, v.isNull = false → context.Resolves settings v.text w →
      result = .printed ((Json.string w).compact ++ "\n")) ∧
    (v.isNull = true → result = .failed ⟨"Error evaluating secret",
      some "Null source value provided for the function: secret"⟩) ∧
    (v.isNull = false → (¬ ∃ w, context.Resolves settings v.text w) →
      result = .failed ⟨"Error evaluating secret",
        some ("Error fetching secret value for alias: " ++ v.text)⟩) := by
  intro v result
  have hresult := outcome_secretLine d clock hargument hcontextFile hsettingsFile hcontextText
    hcontext hsettingsText hsettings
  have hresolves := context.resolves_iff settings v.text
  rw [Context.eval_secret] at hresult
  by_cases hnull : v.isNull = true
  · rw [if_pos hnull] at hresult
    have hresult' : result = .failed ⟨"Error evaluating secret",
      some "Null source value provided for the function: secret"⟩ := hresult
    simp [hresult', hnull, Outcome.exitCode]
  · rw [if_neg hnull] at hresult
    have hnull' : v.isNull = false := by simpa using hnull
    let answer := (context.withVaultPrefix settings.vaultPrefix).secret v.text
    by_cases hmark : settings.vaultPrefix.toList.isPrefixOf answer.toList = true
    · rw [if_pos hmark] at hresult
      have hresult' : result = .failed ⟨"Error evaluating secret",
        some ("Error fetching secret value for alias: " ++ v.text)⟩ := hresult
      have hnone : ∀ w, ¬ context.Resolves settings v.text w := by
        rintro w hw
        obtain ⟨rfl, hfalse⟩ := (hresolves w).1 hw
        rw [hmark] at hfalse
        cases hfalse
      simp [hresult', hnull', hnone, Outcome.exitCode]
    · rw [if_neg hmark] at hresult
      have hresult' : result = .printed ((Json.string answer).compact ++ "\n") := hresult
      have hanswer : context.Resolves settings v.text answer :=
        (hresolves answer).2 ⟨rfl, Bool.not_eq_true _ ▸ hmark⟩
      have honly : ∀ w, context.Resolves settings v.text w → w = answer :=
        fun w hw => ((hresolves w).1 hw).1.symm
      refine ⟨?_, ?_, ?_, ?_⟩
      · rw [hresult']
        exact ⟨fun _ => ⟨hnull', answer, hanswer⟩, fun _ => rfl⟩
      · intro w _ hw
        rw [hresult', honly w hw]
      · exact fun h => absurd h hnull
      · exact fun _ h => absurd ⟨answer, hanswer⟩ h

/-- The context knows the alias, and has a mark that the secret starts with. The mark of the
settings is another one. -/
theorem a_secret_that_starts_with_the_mark_of_its_context_is_printed :
    let document := "\x7b\"secrets\":\x7b\"db\":\"no\"\x7d,\"vault_lookup_prefix\":\"n\"\x7d"
    let read : ReadFile := fun path => .ok (if path = "context" then document else "[\"?\"]")
    Plain "db" ∧ (Context.parse? document).isSome = true ∧
      Settings.parse? "[\"?\"]" = some ⟨"?", .fail⟩ ∧
      outcome default 0 read (secretLine "db" "context" "settings") = .printed "\"no\"\n" := by
  intro document read
  have hsome : (Context.parse? document).isSome = true := by decide +kernel
  have hsettings : Settings.parse? "[\"?\"]" = some ⟨"?", .fail⟩ := by decide +kernel
  have hsecret : (Context.parse? document).bind (·.secrets.get? "db") = some "no" := by
    decide +kernel
  have hargument : Json.parse? "db" = none :=
    Option.isNone_iff_eq_none.1 (by decide +kernel)
  have hvalue : argumentValue "db" = .string "db" := by rw [argumentValue, hargument]
  obtain ⟨context, hcontext⟩ := Option.isSome_iff_exists.1 hsome
  rw [hcontext] at hsecret
  obtain ⟨-, hprinted, -⟩ := only_a_resolved_secret_is_printed default 0 (by decide : Plain "db")
    (by decide : Plain "context") (by decide : Plain "settings") (rfl : read "context" = _) hcontext
    (rfl : read "settings" = _) hsettings
  rw [hvalue] at hprinted
  exact ⟨by decide, hsome, hsettings, hprinted "no" rfl ⟨hsecret, by decide⟩⟩

end CommandLine

end Predefined
