-- What the log tells of an evaluation. Records and failures are made of words, of the names and the
-- messages in the expression, and of operands that they quote. So a text that shares no character
-- with words, names and messages, as a secret may be, comes into the log only as an operand of a
-- call.
import Predefined.Proofs.Failure
import Predefined.Proofs.Session
import Predefined.Proofs.Wording

namespace Predefined

variable {σ α β : Type}

/-! ## Calls that an evaluation meets -/

namespace Expr

mutual

/-- The names of calls and the messages of failures in an expression. -/
def words : Expr → List String
  | literal _ => []
  | failing text => [text]
  | recorded _ inner => inner.words
  | call name es _ => name :: wordsIn es

def wordsIn : List Expr → List String
  | [] => []
  | e :: es => e.words ++ wordsIn es

end

/-- Evaluating the expression comes to a call of a name whose arguments have these values. -/
inductive Meets (host : Host σ) : Expr → Run σ → String → List Value → Prop where
  | here {name : String} {es : List Expr} {settings : Settings} {r s : Run σ} {vs : List Value}
    (direct : Direct name es.length)
    (values : (evalAll host es).exec (r.logged (.call name es.length)) = (.ok vs, s)) :
    Meets host (call name es settings) r name vs
  | beneath {e n : Expr} {r s : Run σ} {i : Nat} {name : String} {vs : List Value}
    (step : Descends host e r i n s) (rest : Meets host n s name vs) : Meets host e r name vs
  | present {e : Expr} {settings : Settings} {r : Run σ} {name : String} {vs : List Value}
    (rest : Meets host e (r.logged (.call "exists" 1)) name vs) :
    Meets host (call "exists" [e] settings) r name vs

variable {host : Host σ}

theorem ComesTo.words_subset {es : List Expr} {r s : Run σ} {i : Nat} {n : Expr}
    (h : ComesTo host es r i n s) : n.words ⊆ wordsIn es := by
  induction h with
  | first => exact List.subset_append_left _ _
  | later _ _ ih => exact List.subset_append_of_subset_right _ ih

theorem Descends.words_subset {e n : Expr} {r s : Run σ} {i : Nat} (h : Descends host e r i n s) :
    n.words ⊆ e.words := by
  cases h with
  | inner => exact List.Subset.refl _
  | argument _ hwalk => exact List.subset_cons_of_subset _ hwalk.words_subset

end Expr

/-! ## What failures and records are made of -/

/-- A failure that has its names and messages from among some words, and that is about operands of a
call that was met. -/
inductive EvalError.Founded (words : List String) (Met : String → List Value → Prop) :
    EvalError → Prop where
  | argumentCount {f : String} {n : Nat} (h : f ∈ words) : Founded words Met (.argumentCount f n)
  | unknownFunction {f : String} {arity : Arity} (h : f ∈ words) :
    Founded words Met (.unknownFunction f arity)
  | nullArgument {f : String} {role : Role} (h : f ∈ words) :
    Founded words Met (.nullArgument f role)
  | message {s : String} (h : s ∈ words) : Founded words Met (.message s)
  | function {name : String} {operands : List Value} {e : EvalError} (word : name ∈ words)
    (met : Met name operands) (blames : e.Blames name operands) : Founded words Met e

namespace LogRecord

/-- A record quotes an operand of a call: in the failure of the call that an `exists` hides, as the
name of a character set, as an XPath expression that fails, or as an alias of no secret. -/
inductive Quotes (name : String) (operands : List Value) : LogRecord → Value → Prop where
  | absent {e : EvalError} {v : Value} (blames : e.Blames name operands) (operand : v ∈ operands)
    (quoted : v.text ∈ e.quotes) : Quotes name operands (.absent e) v
  | charset {v : Value} {c : Charset} (operand : v ∈ operands) :
    Quotes name operands (.charset name v.text c) v
  | xpath {v : Value} (called : name = "xpath") (operand : v ∈ operands) :
    Quotes name operands (.xpathFailure (.xpath ("cannot evaluate '" ++ v.text ++ "'"))) v
  | secret {v : Value} (called : name = "secret") (operand : v ∈ operands) :
    Quotes name operands (.secretUnresolved v.text) v

/-- A record that has its names from among some words and its operands from a call that was met. -/
inductive Founded (words : List String) (Met : String → List Value → Prop) : LogRecord → Prop where
  | call {f : String} {n : Nat} (h : f ∈ words) : Founded words Met (.call f n)
  | source {f : Unary} {v : Value} : Founded words Met (.source f.name v.typeName)
  | absent {e : EvalError} (h : e.Founded words Met) : Founded words Met (.absent e)
  | charset {name : String} {operands : List Value} {v : Value} {c : Charset} (word : name ∈ words)
    (met : Met name operands) (operand : v ∈ operands) :
    Founded words Met (.charset name v.text c)
  | xpath {operands : List Value} {v : Value} (met : Met "xpath" operands)
    (operand : v ∈ operands) :
    Founded words Met (.xpathFailure (.xpath ("cannot evaluate '" ++ v.text ++ "'")))
  | secret {operands : List Value} {v : Value} (met : Met "secret" operands)
    (operand : v ∈ operands) : Founded words Met (.secretUnresolved v.text)

end LogRecord

section Founded

variable {words words' : List String} {Met Met' : String → List Value → Prop}

theorem EvalError.Founded.mono {e : EvalError} (h : e.Founded words Met) (hwords : words ⊆ words')
    (hmet : ∀ name operands, Met name operands → Met' name operands) : e.Founded words' Met' := by
  cases h with
  | argumentCount hf => exact .argumentCount (hwords hf)
  | unknownFunction hf => exact .unknownFunction (hwords hf)
  | nullArgument hf => exact .nullArgument (hwords hf)
  | message hs => exact .message (hwords hs)
  | function hname hcall hblames => exact .function (hwords hname) (hmet _ _ hcall) hblames

theorem LogRecord.Founded.mono {record : LogRecord} (h : record.Founded words Met)
    (hwords : words ⊆ words') (hmet : ∀ name operands, Met name operands → Met' name operands) :
    record.Founded words' Met' := by
  cases h with
  | call hf => exact .call (hwords hf)
  | source => exact .source
  | absent he => exact .absent (he.mono hwords hmet)
  | charset hname hcall hv => exact .charset (hwords hname) (hmet _ _ hcall) hv
  | xpath hcall hv => exact .xpath (hmet _ _ hcall) hv
  | secret hcall hv => exact .secret (hmet _ _ hcall) hv

variable {d : Diagnostics} {signs w : List Char}

theorem EvalError.Founded.shows {e : EvalError} (he : e.Founded words Met) (hd : d.ReportWith signs)
    (h : Fresh signs w) (hwords : ∀ word ∈ words, Clear w word) (hshows : Shows w (e.text d)) :
    ∃ name operands v, Met name operands ∧ (LogRecord.absent e).Quotes name operands v ∧
      Shows w v.text := by
  have hclear : ¬ Clear w (e.text d) := fun hclear => hclear.not_shows h.ne_nil hshows
  cases he with
  | @argumentCount f n hf =>
    have hcount := h.clear (worded_natText n)
    exact absurd ((h.around hcount (by decide)).append (hwords f hf)) hclear
  | @unknownFunction f arity hf =>
    have harity := h.clear (worded_arity arity)
    exact absurd ((h.around (hwords f hf) (by decide)).append harity) hclear
  | @nullArgument f role hf =>
    have hrole := h.clear (worded_role role)
    exact absurd ((h.around hrole (by decide)).append (hwords f hf)) hclear
  | message hs => exact absurd (hwords _ hs) hclear
  | function hname hmet hblames =>
    obtain ⟨v, hv, hquoted, hshown⟩ := hblames.shows hd h (hwords _ hname) hshows
    exact ⟨_, _, v, hmet, .absent hblames hv hquoted, hshown⟩

/-- A fresh text stands in a record only inside of an operand that the record quotes. -/
theorem LogRecord.Founded.shows {record : LogRecord} (hrecord : record.Founded words Met)
    (hd : d.ReportWith signs) (h : Fresh signs w) (hwords : ∀ word ∈ words, Clear w word)
    (hshows : Shows w (record.text d)) :
    ∃ name operands v, Met name operands ∧ record.Quotes name operands v ∧ Shows w v.text := by
  have hclear : ¬ Clear w (record.text d) := fun hclear => hclear.not_shows h.ne_nil hshows
  cases hrecord with
  | @call f n hf =>
    have hcount := h.clear (worded_natText n)
    exact absurd (((h.around (hwords f hf) (by decide)).append hcount).append
      (h.phrase (by decide))) hclear
  | @source f v =>
    have htype := h.clear (worded_typeName v)
    exact absurd (((h.clear (worded_unary f)).append (h.phrase (by decide))).append
      htype) hclear
  | absent he =>
    exact he.shows hd h hwords (shows_of_clear_left h.ne_nil (h.phrase (by decide)) hshows)
  | @charset name operands v c hname hmet hv =>
    have hback := shows_of_clear_right h.ne_nil (h.phrase (by decide))
      (shows_of_clear_right h.ne_nil (h.clear (worded_charset c)) hshows)
    have hfront : Clear w (name ++ ": resolved charset ") :=
      (hwords name hname).append (h.phrase (by decide))
    exact ⟨name, operands, v, hmet, .charset hv, shows_of_clear_left h.ne_nil hfront hback⟩
  | @xpath operands v hmet hv =>
    -- The reason of the host stands behind the words of the record and behind its own.
    have hdetail := shows_of_clear_left h.ne_nil (h.phrase (by decide))
      (shows_of_clear_left h.ne_nil (h.phrase (by decide)) hshows)
    have hopen := shows_of_clear_right h.ne_nil (h.phrase (by decide)) hdetail
    exact ⟨"xpath", operands, v, hmet, .xpath rfl hv,
      shows_of_clear_left h.ne_nil (h.phrase (by decide)) hopen⟩
  | @secret operands v hmet hv =>
    have hfront := shows_of_clear_right h.ne_nil (h.phrase (by decide)) hshows
    exact ⟨"secret", operands, v, hmet, .secret rfl hv,
      shows_of_clear_left h.ne_nil (h.phrase (by decide)) hfront⟩

end Founded

/-! ## Failures -/

namespace Expr

variable {host : Host σ}

theorem FailsItself.founded {e : Expr} {r : Run σ} {err : EvalError}
    (h : FailsItself host e r err) : err.Founded e.words (e.Meets host r) := by
  have hname : ∀ {name : String} {es : List Expr}, name ∈ name :: wordsIn es := List.mem_cons_self
  cases h with
  | failing => exact .message (List.mem_singleton_self _)
  | noArguments _ => exact .unknownFunction hname
  | tooManyArguments _ => exact .argumentCount hname
  | rejected hdirect hvs hrejected =>
    cases hrejected with
    | null _ => exact .nullArgument hname
    | unknown _ _ _ => exact .unknownFunction hname
    | builtIn _ hknown hfails =>
      exact .function hname (.here hdirect hvs) (builtIn_blames host _ hknown _ _ hfails)

/-- What an evaluation fails with names words of the expression and operands of its calls. -/
theorem Fails.founded {e : Expr} {r : Run σ} {err : EvalError} (h : e.Fails host r err) :
    err.Founded e.words (e.Meets host r) := by
  obtain ⟨path, n, s, hway, hself⟩ := reaches_of_fails host e r err h
  clear h
  induction hway with
  | here => exact hself.founded
  | down hstep _ ih => exact (ih hself).mono hstep.words_subset fun _ _ => .beneath hstep

end Expr

/-! ## Records -/

namespace Eval

/-- All records that a step adds to the log of a run satisfy a condition. -/
def Logs (P : LogRecord → Prop) (m : Eval σ α) (r : Run σ) : Prop :=
  ∀ record ∈ (m.exec r).2.log, record ∈ r.log ∨ P record

variable {P : LogRecord → Prop} {r : Run σ}

theorem Logs.mono {Q : LogRecord → Prop} {m : Eval σ α} (h : Logs P m r)
    (hPQ : ∀ record, P record → Q record) : Logs Q m r :=
  fun record hrecord => (h record hrecord).imp_right (hPQ record)

theorem logs_of_kept {m : Eval σ α} (h : (m.exec r).2.log = r.log) : Logs P m r :=
  fun _ hrecord => Or.inl (h ▸ hrecord)

theorem logs_pure (a : α) : Logs P (pure a : Eval σ α) r :=
  logs_of_kept rfl

theorem logs_throw (e : EvalError) : Logs P (throw e : Eval σ α) r :=
  logs_of_kept rfl

theorem logs_ofExcept (x : Except EvalError α) : Logs P (ofExcept x : Eval σ α) r :=
  logs_of_kept (by rw [exec_ofExcept])

theorem logs_log {record : LogRecord} (h : P record) : Logs P (log record) r := by
  intro record' hrecord'
  rcases Array.mem_push.1 hrecord' with hbefore | rfl
  · exact Or.inl hbefore
  · exact Or.inr h

theorem logs_bind {m : Eval σ α} {f : α → Eval σ β} (hm : Logs P m r)
    (hf : ∀ a s, m.exec r = (.ok a, s) → Logs P (f a) s) : Logs P (m >>= f) r := by
  intro record hrecord
  rw [exec_bind] at hrecord
  rcases hrun : m.exec r with ⟨e | a, s⟩
  · rw [hrun] at hrecord
    exact hm record (by rw [hrun]; exact hrecord)
  · rw [hrun] at hrecord
    rcases hf a s hrun record hrecord with hbefore | hP
    · exact hm record (by rw [hrun]; exact hbefore)
    · exact Or.inr hP

theorem logs_log_bind {record : LogRecord} {m : Eval σ α} (h : P record)
    (hm : Logs P m (r.logged record)) : Logs P (log record >>= fun _ => m) r := by
  refine logs_bind (logs_log h) fun _ s hs => ?_
  cases hs
  exact hm

/-- A failure that is hidden is logged. -/
theorem logs_present {m : Eval σ Value} (hm : Logs P m r)
    (herror : ∀ e, (m.exec r).1 = .error e → P (.absent e)) : Logs P (present m) r := by
  intro record hrecord
  rcases hrun : m.exec r with ⟨e | v, s⟩
  · rw [present_of_error hrun] at hrecord
    rcases Array.mem_push.1 hrecord with hbefore | rfl
    · exact hm record (by rw [hrun]; exact hbefore)
    · exact Or.inr (herror e (by rw [hrun]))
  · rw [present_of_ok hrun] at hrecord
    exact hm record (by rw [hrun]; exact hrecord)

end Eval

section Functions

variable {words : List String} {Met : String → List Value → Prop} {clock : Int64}
  {settings : Settings} {u v w : Value} {r : Run Context}

open Eval LogRecord

theorem logs_content : Logs (Founded words Met) ((Context.host clock).content v) r := by
  unfold Host.content
  split
  · next k =>
    refine logs_bind (logs_of_kept rfl) fun reply s hreply => ?_
    -- A context has a content for a key or has none; it never fails to decode one.
    cases hreply
    rcases r.host.resource? k with _ | content
    · exact logs_throw _
    · exact logs_pure _
  · exact logs_throw _

theorem logs_propertyValue :
    Logs (Founded words Met) ((Context.host clock).propertyValue v w) r := by
  unfold Host.propertyValue
  split
  · refine logs_bind (logs_of_kept rfl) fun reply s _ => ?_
    cases reply with
    | none => exact logs_throw _
    | some value => exact logs_pure _
  · exact logs_throw _

theorem logs_xpathValue (h : Met "xpath" [v]) :
    Logs (Founded words Met) ((Context.host clock).xpathValue v) r := by
  refine logs_bind (logs_of_kept rfl) fun reply s hreply => ?_
  have hresult : r.host.xpathResult v.text = reply := by
    cases hreply
    rfl
  unfold Context.xpathResult at hresult
  split at hresult
  · subst hresult
    exact logs_pure _
  · subst hresult
    exact logs_log_bind (.xpath h (List.mem_singleton_self v)) (logs_throw _)

theorem logs_secretValue (h : Met "secret" [v]) :
    Logs (Founded words Met) ((Context.host clock).secretValue settings v) r := by
  refine logs_bind (logs_of_kept rfl) fun reply s hreply => ?_
  cases hreply
  show Logs _ (if settings.vaultPrefix.toList.isPrefixOf (r.host.secret v.text).toList then _
    else _) _
  split
  · exact logs_log_bind (.secret h (List.mem_singleton_self v)) (logs_throw _)
  · exact logs_pure _

theorem Unary.logs_apply (f : Unary) (h : Met f.name [v]) :
    Logs (Founded words Met) (f.apply (Context.host clock) settings v) r := by
  cases f with
  | registry => exact logs_content
  | xpath => exact logs_xpathValue h
  | secret => exact logs_secretValue h
  | isString | isNumber | isArray | isObject | string | boolean => exact logs_pure _
  | length | toLower | toUpper | trim | abs | ceil | floor | round | sqrt | base64Encode
  | base64Decode | urlEncode | urlDecode | integer | float | object | array | not =>
    exact logs_ofExcept _

theorem logs_logCharset {name : String} (hname : name ∈ words) (h : Met name [v, w]) :
    Logs (Founded words Met) (logCharset name v w) r := by
  unfold logCharset
  split
  · split
    · exact logs_log (.charset (v := .string _) hname h (by simp))
    · exact logs_pure _
  · exact logs_pure _

theorem Binary.logs_apply (f : Binary) (hname : f.name ∈ words) (h : Met f.name [v, w]) :
    Logs (Founded words Met) (f.apply (Context.host clock) v w) r := by
  cases f with
  | registry => exact logs_propertyValue
  | base64Encode | urlEncode =>
    exact logs_bind (logs_logCharset hname h) fun _ _ _ => logs_ofExcept _
  | substring | startsWith | endsWith | contains | split | pow => exact logs_ofExcept _

theorem Ternary.logs_apply (f : Ternary) : Logs (Founded words Met) (f.apply u v w) r := by
  cases f <;> exact logs_ofExcept _

theorem logs_builtIn {name : String} {values : List Value} {m : Eval Context Value}
    (h : builtIn? (Context.host clock) settings name values = some m) (hname : name ∈ words)
    (hmet : Met name values) : Logs (Founded words Met) m r := by
  match values, h with
  | [v], h =>
    obtain ⟨f, hf, rfl⟩ := Option.map_eq_some_iff.1 h
    rw [← Unary.name_of_ofName? hf] at hmet
    exact logs_log_bind .source (f.logs_apply hmet)
  | [v, w], h =>
    obtain ⟨f, hf, rfl⟩ := Option.map_eq_some_iff.1 h
    rw [← Binary.name_of_ofName? hf] at hmet hname
    exact f.logs_apply hname hmet
  | [u, v, w], h =>
    obtain ⟨f, -, rfl⟩ := Option.map_eq_some_iff.1 h
    exact f.logs_apply

theorem logs_callValues {name : String} {values : List Value} (h₁ : 1 ≤ values.length)
    (h₃ : values.length ≤ 3) (hname : name ∈ words) (hmet : Met name values) :
    Logs (Founded words Met) (callValues (Context.host clock) settings name values) r := by
  obtain ⟨arity, harity⟩ := exists_arity h₃
  rcases hnull : leftmostNull values with _ | role
  · rw [callValues_of_present _ settings name (List.ne_nil_of_length_pos h₁) harity hnull]
    rcases hbuiltIn : builtIn? (Context.host clock) settings name values with _ | m
    · exact logs_throw _
    · exact logs_builtIn hbuiltIn hname hmet
  · rw [callValues_of_null _ settings name hnull]
    exact logs_throw _

end Functions

namespace Expr

open Eval

theorem logs_evalAll {host : Host σ} {P : LogRecord → Prop} {es : List Expr} {r : Run σ}
    (h : ∀ i n s, ComesTo host es r i n s → Logs P (n.eval host) s) :
    Logs P (evalAll host es) r := by
  induction es generalizing r with
  | nil => exact logs_pure _
  | cons e es ih =>
    refine logs_bind (h 0 e r .first) fun v s hv => ?_
    refine logs_bind (ih fun i n t hcomes => h (i + 1) n t (.later hv hcomes)) fun vs t _ => ?_
    exact logs_pure _

/-- What a record of a node is made of is found in the node above as well. -/
theorem Descends.founded {host : Host σ} {e n : Expr} {r s : Run σ} {i : Nat} {record : LogRecord}
    (h : Descends host e r i n s) (hrecord : record.Founded n.words (n.Meets host s)) :
    record.Founded e.words (e.Meets host r) :=
  hrecord.mono h.words_subset fun _ _ => .beneath h

/-- Every record of an evaluation is made of words of the expression and of operands of its
calls. -/
theorem logs_eval (clock : Int64) (e : Expr) (r : Run Context) :
    Logs (LogRecord.Founded e.words (e.Meets (Context.host clock) r))
      (e.eval (Context.host clock)) r := by
  cases e with
  | literal v => exact logs_pure v
  | failing text => exact logs_throw _
  | recorded label inner =>
    have hstep : Descends (Context.host clock) (recorded label inner) r 0 inner (r.noted label) :=
      .inner
    refine logs_bind (logs_of_kept rfl) fun _ s hs => ?_
    cases hs
    exact (logs_eval clock inner _).mono fun _ => hstep.founded
  | call name es settings =>
    have hname : name ∈ (call name es settings).words := List.mem_cons_self
    rcases call_forms name es with rfl | ⟨rfl, e, rfl⟩ | hdirect | hmany
    · rw [eval_call_nil]
      refine logs_log_bind (.call hname) (logs_of_kept ?_)
      rw [callNullary]
      rcases Nullary.ofName? name with _ | ⟨⟨⟩⟩ <;> rfl
    · have hwords : e.words ⊆ (call "exists" [e] settings).words :=
        List.subset_cons_of_subset _ (List.subset_append_left _ _)
      rw [eval_exists]
      refine logs_log_bind (.call hname) (logs_present ?_ fun err herr => .absent ?_)
      · exact (logs_eval clock e _).mono fun _ hrecord => hrecord.mono hwords fun _ _ => .present
      · exact (Fails.founded herr).mono hwords fun _ _ => .present
    · rw [eval_call_of_direct _ name settings hdirect]
      refine logs_log_bind (.call hname) (logs_bind ?_ fun vs s hvs => ?_)
      · refine logs_evalAll fun i n s hcomes => ?_
        have hstep : Descends (Context.host clock) (call name es settings) r i n s :=
          .argument hdirect hcomes
        exact (logs_eval clock n s).mono fun _ => hstep.founded
      · have hlength : vs.length = es.length := length_of_evalAll hvs
        exact logs_callValues (hlength ▸ hdirect.1) (hlength ▸ hdirect.2.1) hname
          (.here hdirect hvs)
    · rw [eval_call_of_three_lt _ name settings hmany]
      exact logs_log_bind (.call hname) (logs_throw _)
termination_by sizeOf e
decreasing_by
  · exact hstep.sizeOf_lt
  · rename_i hes
    simp +arith [hes]
  · exact hstep.sizeOf_lt

end Expr

/-! ## Secrets -/

namespace Context

/-- A text that shares no character with the words of log records, with the signs of reports on
patterns, with the names of calls and with the messages of failures, such as a secret, comes into
the log in one way only: a call gets it in the text of an operand, and a record quotes this operand.
No record of a call or of the type of its argument does. -/
theorem a_secret_is_logged_only_in_a_quoted_operand {d : Diagnostics} {signs : List Char}
    (hreports : d.ReportWith signs) (c : Context) (clock : Int64) (e : Expr) {w : String}
    (hfresh : Fresh signs w.toList) (hwords : ∀ word ∈ e.words, Clear w.toList word) :
    ∀ record ∈ (c.evaluate clock e).1.log, Shows w.toList (record.text d) →
      record.level ≠ .trace ∧ ∃ name operands v,
        e.Meets (host clock) (Run.start c) name operands ∧
          record.Quotes name operands v ∧ Shows w.toList v.text := by
  intro record hrecord hshows
  rcases Expr.logs_eval clock e (Run.start c) record (Array.mem_toList_iff.1 hrecord) with
    hbefore | hfounded
  · exact absurd hbefore (by simp [Run.start])
  · obtain ⟨name, operands, v, hmet, hquotes, hshown⟩ :=
      hfounded.shows hreports hfresh hwords hshows
    refine ⟨?_, name, operands, v, hmet, hquotes, hshown⟩
    cases hquotes <;> simp [LogRecord.level]

/-- What is said about a pattern in one line with a class that its first character opens and nothing
closes, and about an empty document. -/
def unclosedClass : Diagnostics where
  pattern source _ :=
    "regex parse error:\n    " ++ (source ++ "\n" ++ "    ^\nerror: unclosed character class")
  settings _ := "EOF while parsing a value at line 1 column 0"
  context _ := "EOF while parsing a value at line 1 column 0"

def unclosedClassSigns : List Char :=
  [' ', '\n', ':', '^', 'a', 'c', 'd', 'e', 'g', 'h', 'l', 'n', 'o', 'p', 'r', 's', 't', 'u', 'x']

theorem reportWith_unclosedClass : unclosedClass.ReportWith unclosedClassSigns := by
  intro source fault _
  have hbefore : "regex parse error:\n    ".toList ⊆ unclosedClassSigns := by decide +kernel
  have hbehind : "    ^\nerror: unclosed character class".toList ⊆ unclosedClassSigns := by
    decide +kernel
  have hend : ReportOn unclosedClassSigns source
      ("    ^\nerror: unclosed character class" ++ "") := .signs_append hbehind .nil
  rw [String.append_empty] at hend
  exact ReportOn.signs_append hbefore
    (.part (c := '\n') (List.infix_refl source.toList) (by decide +kernel) hend)

/-- A call that takes a secret for a pattern, and hides that it is refused. -/
def secretAsPattern : Expr :=
  .call "exists" [.call "split" [.literal (.string "a"),
    .call "secret" [.literal (.string "db")] .default] .default] .default

/-- The failure to read the pattern quotes it, which is the secret, and so does the report on it. -/
theorem a_secret_as_a_pattern_is_quoted_by_the_failure :
    let c := empty.withSecret "db" "["
    let record := LogRecord.absent (.invalidPattern "[" .openClass)
    unclosedClass.ReportWith unclosedClassSigns ∧ Fresh unclosedClassSigns "[".toList ∧
      record ∈ (c.evaluate 0 secretAsPattern).1.log ∧
      Shows "[".toList (record.text unclosedClass) ∧
      record.level ≠ .trace ∧ ∃ name operands v,
        secretAsPattern.Meets (host 0) (Run.start c) name operands ∧
          record.Quotes name operands v ∧ Shows "[".toList v.text := by
  intro c record
  have hrecord : record ∈ (c.evaluate 0 secretAsPattern).1.log := by decide +kernel
  have hfresh : Fresh unclosedClassSigns "[".toList :=
    ⟨by simp, by simp [wording], by simp [unclosedClassSigns]⟩
  have hwords : ∀ word ∈ secretAsPattern.words, Clear "[".toList word := by decide
  have hshows : Shows "[".toList (record.text unclosedClass) := by
    unfold Shows
    decide +kernel
  exact ⟨reportWith_unclosedClass, hfresh, hrecord, hshows,
    a_secret_is_logged_only_in_a_quoted_operand reportWith_unclosedClass c 0 secretAsPattern hfresh
      hwords record hrecord hshows⟩

/-- A call that takes a secret for the key of a resource, and hides that there is none. -/
def secretAsKey : Expr :=
  .call "exists" [.call "registry" [.call "secret" [.literal (.string "db")] .default] .default]
    .default

/-- A secret of which no character occurs in any other text comes into the log: the failure to find
the resource quotes its key. -/
theorem a_secret_as_a_key_is_logged :
    let c := empty.withSecret "db" "世"
    c.secrets.get? "db" = some "世" ∧ Fresh unclosedClassSigns "世".toList ∧
      (∀ s ∈ "db" :: c.vaultPrefix :: Settings.default.vaultPrefix :: secretAsKey.words,
        Clear "世".toList s) ∧
      c.registry = .empty ∧ c.xpath = .empty ∧
      ∃ record ∈ (c.evaluate 0 secretAsKey).1.log,
        Shows "世".toList (record.text unclosedClass) := by
  intro c
  have hshows : Shows "世".toList
      ((LogRecord.absent (.resourceNotFound "世")).text unclosedClass) := by
    unfold Shows
    decide +kernel
  have hfresh : Fresh unclosedClassSigns "世".toList :=
    ⟨by simp, by simp [wording], by simp [unclosedClassSigns]⟩
  exact ⟨by decide, hfresh, by decide, rfl, rfl, .absent (.resourceNotFound "世"), by decide, hshows⟩

end Context

end Predefined
