-- A context over its whole history. Writes, look-ups and evaluations follow each other in any
-- order. Only writes change the stores, and only look-ups and evaluations are remembered. So what a
-- context answers is found by replaying its writes, of which the last one counts.
import Predefined.Proofs.ContextDocument
import Predefined.Proofs.Purity

namespace Predefined

theorem Dictionary.get?_insert {α : Type} (d : Dictionary α) (key other : String) (a : α) :
    (d.insert key a).get? other = if key = other then some a else d.get? other := by
  unfold Dictionary.get? Dictionary.insert
  by_cases h : key = other
  · subst h
    rw [if_pos rfl, Table.get?_insert_self]
  · rw [if_neg h, Table.get?_insert_of_ne (Ne.symm h)]

namespace Context

variable {c d : Context}

/-! ## Histories -/

/-- What happens to a context. -/
inductive Step where
  | write (w : Write)
  | ask (q : Lookup)
  | evaluate (clock : Int64) (e : Expr)

/-- The context behind a step. What a look-up leaves behind does not depend on the time. -/
def step (c : Context) : Step → Context
  | .write w => c.write w
  | .ask q => ((host 0).reply q c).2
  | .evaluate clock e => (c.evaluate clock e).2

def after (c : Context) (history : List Step) : Context :=
  history.foldl step c

def Step.write? : Step → Option Write
  | write w => some w
  | _ => none

/-- The writes of a history, in order. -/
def writes (history : List Step) : List Write :=
  history.filterMap Step.write?

/-- The look-ups that a step makes. Those of an evaluation are what a host that is watched from
outside is asked. -/
def Step.lookups (c : Context) : Step → List Lookup
  | write _ => []
  | ask q => [q]
  | evaluate clock e => e.questions (host clock) c

/-- All look-ups of a history, in order. -/
def lookups (c : Context) : List Step → List Lookup
  | [] => []
  | s :: history => s.lookups c ++ lookups (c.step s) history

/-! ## What is written -/

namespace Write

/-- The content that a write gives to the resource under a key. -/
def content? (key : String) : Write → Option String
  | resource k content => if k = key then some content else none
  | _ => none

def property? (key name : String) : Write → Option String
  | property k n value => if k = key ∧ n = name then some value else none
  | _ => none

def secret? (key : String) : Write → Option String
  | secret k value => if k = key then some value else none
  | _ => none

def xpath? (expression : String) : Write → Option Json
  | xpath x result => if x = expression then some result else none
  | _ => none

def vaultPrefix? : Write → Option String
  | vaultPrefix start => some start
  | _ => none

/-- Whether a write sets a property of the resource under a key. -/
def describes (key : String) : Write → Bool
  | property k _ _ => k = key
  | _ => false

end Write

/-- The last of the values that writes give. -/
def last? {α : Type} (value? : Write → Option α) (ws : List Write) : Option α :=
  (ws.filterMap value?).getLast?

theorem last?_cons {α : Type} (value? : Write → Option α) (w : Write) (ws : List Write) :
    last? value? (w :: ws) = (last? value? ws).or (value? w) := by
  unfold last?
  rw [List.filterMap_cons]
  rcases value? w with _ | a
  · rw [Option.or_none]
  · rw [List.getLast?_cons]
    rcases (ws.filterMap value?).getLast? with _ | b <;> rfl

/-! ## One write -/

theorem property?_write (c : Context) (key name : String) (w : Write) :
    (c.write w).property? key name = (w.property? key name).or (c.property? key name) := by
  cases w with
  | resource k content =>
    simp only [write, withResource, property?, Write.property?, Dictionary.get?_insert,
      Option.none_or]
    by_cases hk : k = key
    · subst hk
      rw [if_pos rfl, resourceOrEmpty]
      rcases c.registry.get? k with _ | r <;> rfl
    · rw [if_neg hk]
  | property k n value =>
    simp only [write, withProperty, property?, Write.property?, Dictionary.get?_insert]
    by_cases hk : k = key
    · subst hk
      simp only [if_true, Option.bind_some, Dictionary.get?_insert, resourceOrEmpty, true_and]
      by_cases hn : n = name
      · rw [if_pos hn, if_pos hn, Option.some_or]
      · rw [if_neg hn, if_neg hn, Option.none_or]
        rcases c.registry.get? k with _ | r <;> rfl
    · simp only [hk, if_false, false_and, Option.none_or]
  | _ => rfl

theorem secrets_write (c : Context) (key : String) (w : Write) :
    (c.write w).secrets.get? key = (w.secret? key).or (c.secrets.get? key) := by
  cases w with
  | secret k value =>
    simp only [write, withSecret, Write.secret?, Dictionary.get?_insert]
    split <;> rfl
  | _ => rfl

theorem xpath_write (c : Context) (expression : String) (w : Write) :
    (c.write w).xpath.get? expression = (w.xpath? expression).or (c.xpath.get? expression) := by
  cases w with
  | xpath x result =>
    simp only [write, withXPath, Write.xpath?, Dictionary.get?_insert]
    split <;> rfl
  | _ => rfl

theorem vaultPrefix_write (c : Context) (w : Write) :
    some (c.write w).vaultPrefix = w.vaultPrefix?.or (some c.vaultPrefix) := by
  cases w <;> rfl

/-- A property makes the resource that it belongs to, with an empty content. -/
theorem resource?_write (c : Context) (key : String) (w : Write) :
    (c.write w).resource? key =
      (w.content? key).or ((c.resource? key).or (if w.describes key then some "" else none)) := by
  cases w with
  | resource k content =>
    simp only [write, withResource, resource?, Write.content?, Write.describes,
      Dictionary.get?_insert]
    by_cases hk : k = key <;> simp [hk]
  | property k n value =>
    simp only [write, withProperty, resource?, Write.content?, Dictionary.get?_insert,
      Option.none_or]
    by_cases hk : k = key
    · subst hk
      have hdescribes : (Write.property k n value).describes k = true := by simp [Write.describes]
      rw [if_pos rfl, if_pos hdescribes, resourceOrEmpty]
      rcases c.registry.get? k with _ | r <;> rfl
    · simp [hk, Write.describes]
  | _ => simp [write, withSecret, withXPath, withVaultPrefix, resource?, Write.content?,
      Write.describes]

/-! ## All writes -/

/-- When a write puts its value before what stood there, the last write does. -/
theorem view_replay {α : Type} (view : Context → Option α) {value? : Write → Option α}
    (h : ∀ c w, view (c.write w) = (value? w).or (view c)) (c : Context) (ws : List Write) :
    view (ws.foldl write c) = (last? value? ws).or (view c) := by
  induction ws generalizing c with
  | nil => rfl
  | cons w ws ih => rw [List.foldl_cons, ih, h, last?_cons, Option.or_assoc]

section Replay

variable (c : Context) (ws : List Write)

theorem property?_replay (key name : String) :
    (ws.foldl write c).property? key name =
      (last? (Write.property? key name) ws).or (c.property? key name) :=
  view_replay (property? · key name) (property?_write · key name ·) c ws

theorem secrets_replay (key : String) :
    (ws.foldl write c).secrets.get? key =
      (last? (Write.secret? key) ws).or (c.secrets.get? key) :=
  view_replay (·.secrets.get? key) (secrets_write · key ·) c ws

theorem xpath_replay (expression : String) :
    (ws.foldl write c).xpath.get? expression =
      (last? (Write.xpath? expression) ws).or (c.xpath.get? expression) :=
  view_replay (·.xpath.get? expression) (xpath_write · expression ·) c ws

theorem vaultPrefix_replay :
    (ws.foldl write c).vaultPrefix = (last? Write.vaultPrefix? ws).getD c.vaultPrefix := by
  have hreplay := view_replay (some ·.vaultPrefix) vaultPrefix_write c ws
  rcases hlast : last? Write.vaultPrefix? ws with _ | start
  · rw [hlast, Option.none_or] at hreplay
    exact Option.some.inj hreplay
  · rw [hlast, Option.some_or] at hreplay
    exact Option.some.inj hreplay

theorem resource?_replay (key : String) :
    (ws.foldl write c).resource? key = (last? (Write.content? key) ws).or
      ((c.resource? key).or (if ws.any (Write.describes key) then some "" else none)) := by
  induction ws generalizing c with
  | nil => simp [last?]
  | cons w ws ih =>
    rw [List.foldl_cons, ih, resource?_write, last?_cons, List.any_cons]
    -- The first write that describes the resource makes it, and later ones find it.
    rcases w.content? key with _ | content
    · rcases c.resource? key with _ | content
      · by_cases hw : w.describes key = true <;> simp [hw]
      · simp
    · simp

end Replay

/-! ## Look-ups and evaluations -/

theorem SameStores.write (h : c.SameStores d) (w : Write) :
    (c.write w).SameStores (d.write w) := by
  rcases c with ⟨registry, secrets, xpath, vaultPrefix, _⟩
  obtain ⟨rfl, rfl, rfl, rfl⟩ := h
  cases w <;> exact ⟨rfl, rfl, rfl, rfl⟩

/-- Only writes change the stores, and they change them as if nothing else had happened. -/
theorem SameStores.after (h : c.SameStores d) (history : List Step) :
    (c.after history).SameStores ((writes history).foldl Context.write d) := by
  induction history generalizing c d with
  | nil => exact h
  | cons s history ih =>
    cases s with
    | write w => exact ih (h.write w)
    | ask q =>
      refine ih (c := (host 0).reply q c |>.2) ?_
      rw [host_reply]
      exact h.with_calls _ d.calls
    | evaluate clock e =>
      obtain ⟨-, hafter⟩ := evaluate_sideBySide (SameStores.refl c) clock clock e (Or.inl rfl)
      refine ih (c := (c.evaluate clock e).2) ?_
      rw [hafter]
      exact h.with_calls _ d.calls

/-- A run on a watched context and one on the context itself, which remembers what is asked. -/
structure Remembers (c : Context) (r : Run (Context × List Lookup)) (s : Run Context) : Prop where
  watches : r.Watches s
  host : s.host = c.remember r.host.2

theorem remembers_keptByWriting (c : Context) : Run.KeptByWriting (Remembers c) where
  logged record h := ⟨watches_keptByWriting.logged record h.watches, h.host⟩
  noted label h := ⟨watches_keptByWriting.noted label h.watches, h.host⟩

theorem agree_ask_remembers (c : Context) (clock : Int64) (q : Lookup) :
    Eval.Agree (Remembers c) (Eval.ask ((Context.host clock).watched.reply q))
      (Eval.ask ((Context.host clock).reply q)) := by
  rintro r s ⟨hwatches, hhost⟩
  rw [reply_watched]
  obtain ⟨hreply, hafter⟩ := agree_ask_watch q ((Context.host clock).reply q) r s hwatches
  refine ⟨hreply, hafter, ?_⟩
  simp only [Eval.exec_ask, host_reply, Lookup.watch, hhost, record, remember]
  simp

/-- An evaluation leaves its questions behind in the context, and nothing else. -/
theorem evaluate_remembers (c : Context) (clock : Int64) (e : Expr) :
    (c.evaluate clock e).2 = c.remember (e.questions (host clock) c) := by
  have hagree : Eval.Agree (Remembers c) (e.eval (host clock).watched) (e.eval (host clock)) := by
    refine Expr.agree_eval (remembers_keptByWriting c) e ?_
    refine Expr.everyCall_of_forall (fun name count _ => ⟨fun _ _ => rfl, fun q _ => ?_⟩) e
    exact agree_ask_remembers c clock q
  have hstart : Remembers c (Run.start (c, [])) (Run.start c) :=
    ⟨watches_start c, by simp [Run.start, remember]⟩
  exact (hagree _ _ hstart).2.host

theorem calls_step (c : Context) (s : Step) :
    (c.step s).calls.toList = c.calls.toList ++ s.lookups c := by
  cases s with
  | write w => cases w <;> simp [step, write, Step.lookups, withResource, withProperty, withSecret,
      withXPath, withVaultPrefix]
  | ask q => simp [step, host_reply, record, Step.lookups]
  | evaluate clock e => simp [step, evaluate_remembers, remember, Step.lookups]

theorem calls_after (c : Context) (history : List Step) :
    (c.after history).calls.toList = c.calls.toList ++ lookups c history := by
  induction history generalizing c with
  | nil => simp [after, lookups]
  | cons s history ih =>
    have hafter : c.after (s :: history) = (c.step s).after history := rfl
    rw [hafter, ih, calls_step, List.append_assoc, lookups]

/-- A context that was read from a document remembers nothing. -/
theorem calls_of_parse? {document : String} (h : parse? document = some c) : c.calls = #[] := by
  obtain ⟨t, -, ht⟩ := Option.bind_eq_some_iff.1 h
  unfold ofTree? at ht
  obtain ⟨fields, -, ht⟩ := Option.bind_eq_some_iff.1 ht
  split at ht
  · obtain ⟨_, -, ht⟩ := Option.bind_eq_some_iff.1 ht
    obtain ⟨_, -, ht⟩ := Option.bind_eq_some_iff.1 ht
    obtain ⟨_, -, ht⟩ := Option.bind_eq_some_iff.1 ht
    obtain ⟨_, -, ht⟩ := Option.bind_eq_some_iff.1 ht
    cases ht
    rfl
  · cases ht

/-! ## Answers -/

/-- What a context answers after any history, and what it remembers. The content of a resource is
the one written last, or the one of the document. A resource that only has properties is empty. A
property is answered by its last value, whatever content the resource got since. So is a secret, and
an alias without a value is answered with the mark in force. Every look-up is remembered, and writes
leave what is remembered as it is. -/
theorem a_context_answers_with_the_last_write {document : String} {loaded : Context}
    (h : parse? document = some loaded) (history : List Step) (clock : Int64) :
    let ws := writes history
    let c := loaded.after history
    (∀ key, ((host clock).resource key c).1 = .ok ((last? (Write.content? key) ws).or
      ((loaded.resource? key).or (if ws.any (Write.describes key) then some "" else none)))) ∧
    (∀ key name, ((host clock).property key name c).1 =
      (last? (Write.property? key name) ws).or (loaded.property? key name)) ∧
    (∀ key, ((host clock).secret key c).1 =
      .ok (((last? (Write.secret? key) ws).or (loaded.secrets.get? key)).getD
        ((last? Write.vaultPrefix? ws).getD loaded.vaultPrefix ++ key ++ ")"))) ∧
    (∀ expression, ((host clock).xpath expression c).1 =
      match (last? (Write.xpath? expression) ws).or (loaded.xpath.get? expression) with
      | some j => .ok (Value.ofJson j)
      | none => .error (.xpath ("cannot evaluate '" ++ expression ++ "'"))) ∧
    c.calls.toList = lookups loaded history := by
  intro ws c
  have hstores : c.SameStores (ws.foldl write loaded) := (SameStores.refl loaded).after history
  have hreply : ∀ q, c.reply q = (ws.foldl write loaded).reply q := hstores.reply_eq
  refine ⟨fun key => ?_, fun key name => ?_, fun key => ?_, fun expression => ?_, ?_⟩
  · have hresource := hreply (.resource key)
    rw [← resource?_replay]
    exact hresource
  · have hproperty := hreply (.property key name)
    rw [← property?_replay]
    exact hproperty
  · have hsecret := hreply (.secret key)
    rw [← secrets_replay, ← vaultPrefix_replay]
    exact hsecret
  · have hxpath := hreply (.xpath expression)
    rw [← xpath_replay]
    exact hxpath
  · rw [calls_after, calls_of_parse? h]
    rfl

/-- The resource `a` is in the document, and gets a property and then another content. The resource
`b` only gets a property. -/
theorem a_resource_keeps_its_properties_under_a_new_content :
    let document := "\x7b\"registry\":\x7b\"a\":\x7b"
      ++ "\"content\":\"x\",\"properties\":\x7b\x7d\x7d\x7d,\"secrets\":\x7b\x7d,"
      ++ "\"vault_lookup_prefix\":\"wso2:vault-lookup(\",\"xpath\":\x7b\x7d\x7d"
    let loaded := empty.withResource "a" "x"
    let asked := Expr.call "registry" [.literal (.string "a")] .default
    let history : List Step := [.write (.property "a" "env" "prod"), .evaluate 0 asked,
      .write (.resource "a" "y"), .ask (.secret "s"), .write (.property "b" "env" "test"),
      .write (.vaultPrefix "?")]
    let c := loaded.after history
    parse? document = some loaded ∧
      ((host 0).resource "a" c).1 = .ok (some "y") ∧ ((host 0).resource "b" c).1 = .ok (some "") ∧
      ((host 0).property "a" "env" c).1 = some "prod" ∧ ((host 0).secret "s" c).1 = .ok "?s)" ∧
      c.calls.toList = [.resource "a", .secret "s"] := by
  intro document loaded asked history c
  have hreadable : loaded.Readable := by
    intro entry hentry
    exact absurd hentry List.not_mem_nil
  have hwritten : loaded.WrittenAs document :=
    ⟨loaded.toTree, loaded.isDocument_toTree, by decide +kernel⟩
  have hloaded : parse? document = some loaded := parse?_of_writtenAs hreadable hwritten
  obtain ⟨hresource, hproperty, hsecret, -, hcalls⟩ :=
    a_context_answers_with_the_last_write hloaded history 0
  exact ⟨hloaded, hresource "a", hresource "b", hproperty "a" "env", hsecret "s", hcalls⟩

end Context

end Predefined
