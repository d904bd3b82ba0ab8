-- Command lines that evaluate a call. What does not start with a dash is an operand wherever it
-- stands, and behind a double dash everything is; the first operand names the function. A dash with
-- something else behind it begins options, and one that no option starts with is refused. Running
-- the call shows the result of its evaluation.
import Predefined.CommandLine.Command
import Predefined.Proofs.Session

namespace Predefined.CommandLine

/-! ## Items -/

/-- Arguments that do not start with a dash. -/
def Plain (argument : String) : Prop :=
  ∀ rest, argument.toList ≠ '-' :: rest

instance (argument : String) : Decidable (Plain argument) :=
  decidable_of_iff (argument.toList.head? ≠ some '-') (by
    cases h : argument.toList with
    | nil => simp [Plain, h]
    | cons c rest => simp [Plain, h])

theorem Plain.form {argument : String} (h : Plain argument) : Form.of argument = .plain := by
  unfold Form.of
  split
  · rename_i heq
    exact absurd heq (h _)
  · rename_i heq
    exact absurd heq (h _)
  · rename_i heq
    exact absurd heq (h _)
  · rfl

section Tokens

variable (flags : List Flag) {argument : String} {rest : List String}

theorem tokens_plain (h : Plain argument) :
    tokens flags none (argument :: rest) =
      (tokens flags none rest).map (.operand argument :: ·) := by
  simp only [tokens, h.form]

theorem tokens_value (long : String) (h : Plain argument) :
    tokens flags (some long) (argument :: rest) =
      (tokens flags none rest).map (.option long argument :: ·) := by
  simp only [tokens, h.form]

theorem tokens_doubleDash (operands : List String) :
    tokens flags none ("--" :: operands) = some (operands.map .operand) :=
  rfl

theorem tokens_of_plain {operands : List String} (h : ∀ a ∈ operands, Plain a) :
    tokens flags none operands = some (operands.map .operand) := by
  induction operands with
  | nil => rfl
  | cons a operands ih =>
    have hrest := ih fun b hb => h b (List.mem_cons_of_mem _ hb)
    rw [tokens_plain flags (h a List.mem_cons_self), hrest]
    rfl

/-- Short options that do not start with a known one are refused. -/
theorem tokens_of_unknown {c : Char} {letters : List Char}
    (hargument : argument.toList = '-' :: c :: letters) (hdash : c ≠ '-')
    (hknown : flags.find? (·.short = some c) = none) :
    tokens flags none (argument :: rest) = none := by
  have hform : Form.of argument = .short (c :: letters) := by simp [Form.of, hargument, hdash]
  simp only [tokens, hform, letterTokens, hknown]
  rfl

end Tokens

/-! ## Lines -/

/-- A line that begins with `eval` is a line of that command. -/
theorem parse?_eval (arguments : List String) :
    parse? ("eval" :: arguments) = ofTokens? evalFlags true evalCommand? arguments := by
  have hself : parse? ("eval" :: arguments) =
      (ofTokens? evalFlags true evalCommand? arguments).bind fun found =>
        some { found with verbosity := 0 + found.verbosity } := rfl
  rw [hself]
  rcases ofTokens? evalFlags true evalCommand? arguments with _ | found
  · rfl
  · rw [Option.bind_some, Nat.zero_add]

section Lines

variable (d : Diagnostics) (clock : Int64) (read : ReadFile)

/-- The first operand names the function, and the others are its arguments. -/
theorem outcome_of_tokens {line : List String} {ts : List Token} {function : String}
    {operands : List String} (h : tokens evalFlags none line = some ts)
    (hrepeated : noneRepeated evalFlags ts = true) (hhelp : ts.contains (.flag "help") = false)
    (hoperands : ts.filterMap Token.operand? = function :: operands) :
    outcome d clock read ("eval" :: line) =
      Request.outcome d clock read ⟨function, operands, valueOf? "context" ts,
        valueOf? "config" ts, ts.contains (.flag "pretty")⟩ := by
  rw [outcome, parse?_eval, ofTokens?, h]
  simp [hrepeated, hhelp, hoperands, evalCommand?, -List.contains_eq_mem]
  rfl

theorem outcome_of_operands {line : List String} {function : String} {operands : List String}
    (h : tokens evalFlags none line = some ((function :: operands).map .operand)) :
    outcome d clock read ("eval" :: line) =
      Request.outcome d clock read ⟨function, operands, none, none, false⟩ := by
  have hlong : ((function :: operands).map Token.operand).filterMap Token.long? = [] := by
    simp [Token.long?]
  have hrepeated : noneRepeated evalFlags ((function :: operands).map .operand) = true := by
    rw [noneRepeated, hlong]
    rfl
  have hflag : ∀ long,
      ((function :: operands).map Token.operand).contains (.flag long) = false := by
    simp
  have hvalue : ∀ long, valueOf? long ((function :: operands).map .operand) = none := by
    simp [valueOf?]
  have hoperands : ((function :: operands).map Token.operand).filterMap Token.operand? =
      function :: operands := by
    rw [List.filterMap_map]
    exact List.filterMap_some
  rw [outcome_of_tokens d clock read h hrepeated (hflag _) hoperands, hflag, hvalue, hvalue]

theorem outcome_of_refused {line : List String} (h : tokens evalFlags none line = none) :
    outcome d clock read ("eval" :: line) = .rejected := by
  rw [outcome, parse?_eval, ofTokens?, h]
  rfl

/-- A line with an operand for the function and files for the context and the settings. -/
theorem outcome_with_files {function operand contextFile settingsFile : String}
    (hfunction : Plain function) (hoperand : Plain operand) (hcontext : Plain contextFile)
    (hsettings : Plain settingsFile) :
    outcome d clock read
        ["eval", function, operand, "--context", contextFile, "--config", settingsFile] =
      Request.outcome d clock read
        ⟨function, [operand], some contextFile, some settingsFile, false⟩ := by
  have htokens : tokens evalFlags none
      [function, operand, "--context", contextFile, "--config", settingsFile] =
        some [.operand function, .operand operand, .option "context" contextFile,
          .option "config" settingsFile] := by
    have hcontextValue : ∀ rest, tokens evalFlags none ("--context" :: rest) =
        (tokens evalFlags (some "context") rest).map ([] ++ ·) := fun _ => rfl
    have hsettingsValue : ∀ rest, tokens evalFlags none ("--config" :: rest) =
        (tokens evalFlags (some "config") rest).map ([] ++ ·) := fun _ => rfl
    rw [tokens_plain _ hfunction, tokens_plain _ hoperand, hcontextValue, tokens_value _ _ hcontext,
      hsettingsValue, tokens_value _ _ hsettings]
    rfl
  exact outcome_of_tokens d clock read htokens rfl rfl rfl

end Lines

/-! ## Running -/

/-- How the result of a call is shown. -/
def Outcome.ofResult (d : Diagnostics) (function : String) : Except EvalError Value → Outcome
  | .ok v => .printed (v.toJson.compact ++ "\n")
  | .error e => .failed ⟨"Error evaluating " ++ function, some (e.text d)⟩

/-- Once its files are read, a request shows the result of its call, in the context with the mark of
the settings. -/
theorem Request.outcome_eq {d : Diagnostics} (clock : Int64) {read : ReadFile} {r : Request}
    {settings : Settings} {context : Context}
    (hsettings : readSettings d read r.settingsFile = .ok settings)
    (hcontext : readContext d read r.contextFile = .ok context) (hpretty : r.pretty = false) :
    r.outcome d clock read = .ofResult d r.function
      ((context.withVaultPrefix settings.vaultPrefix).evaluate clock
        (r.expr settings)).1.result := by
  let start := Run.start (context.withVaultPrefix settings.vaultPrefix)
  have hresult : ((context.withVaultPrefix settings.vaultPrefix).evaluate clock
      (r.expr settings)).1.result = (((r.expr settings).eval (Context.host clock)).run start).1 :=
    rfl
  rw [Request.outcome, hpretty, hresult]
  simp only [Request.run, hsettings, hcontext]
  rcases ((r.expr settings).eval (Context.host clock)).run start with ⟨_ | _, _⟩ <;> rfl

end Predefined.CommandLine
