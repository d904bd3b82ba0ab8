-- The pure flag of the catalogue. The signatures say which functions are pure, and nothing in the
-- functions reads them. An expression in which no call is flagged otherwise asks its host for
-- nothing, so that it is the same for all hosts, of whatever kind and in whatever state.
import Predefined.Proofs.Agreement
import Predefined.Proofs.Signatures

namespace Predefined

variable {σ τ : Type}

/-! ## Watching a host -/

/-- A look-up that leaves its question behind, after those that were asked before. -/
def Lookup.watch {α : Type} (q : Lookup) (look : σ → α × σ) :
    σ × List Lookup → α × (σ × List Lookup) :=
  fun (s, asked) =>
    let (a, s) := look s
    (a, (s, asked ++ [q]))

/-- A host that also keeps the questions it is asked. -/
def Host.watched (host : Host σ) : Host (σ × List Lookup) where
  resource key := (Lookup.resource key).watch (host.resource key)
  property key name := (Lookup.property key name).watch (host.property key name)
  secret key := (Lookup.secret key).watch (host.secret key)
  xpath expression := (Lookup.xpath expression).watch (host.xpath expression)
  clock := host.clock

theorem reply_watched (host : Host σ) (q : Lookup) :
    host.watched.reply q = q.watch (host.reply q) := by
  cases q <;> rfl

/-- A run on the watched host and one on the host itself, without the questions. -/
structure Run.Watches (r : Run (σ × List Lookup)) (s : Run σ) : Prop where
  host : r.host.1 = s.host
  journal : r.journal = s.journal
  log : r.log = s.log

theorem watches_keptByWriting : Run.KeptByWriting (Run.Watches (σ := σ)) where
  logged record h := ⟨h.host, h.journal, congrArg (·.push record) h.log⟩
  noted label h := ⟨h.host, congrArg (·.push label) h.journal, h.log⟩

theorem watches_start (s : σ) : Run.Watches (Run.start (s, [])) (Run.start s) :=
  ⟨rfl, rfl, rfl⟩

theorem agree_ask_watch {α : Type} (q : Lookup) (look : σ → α × σ) :
    Eval.Agree Run.Watches (Eval.ask (q.watch look)) (Eval.ask look) := by
  rintro ⟨⟨s, asked⟩, journal, log⟩ r ⟨rfl, rfl, rfl⟩
  exact ⟨rfl, rfl, rfl, rfl⟩

/-- Watching a host changes nothing. -/
theorem agree_watched (host : Host σ) (e : Expr) :
    Eval.Agree Run.Watches (e.eval host.watched) (e.eval host) := by
  refine Expr.agree_eval watches_keptByWriting e ?_
  refine Expr.everyCall_of_forall (fun name count _ => ⟨fun _ _ => rfl, fun q _ => ?_⟩) e
  rw [reply_watched]
  exact agree_ask_watch q (host.reply q)

/-- What an evaluation asks of a host in a state, in order. -/
def Expr.questions (e : Expr) (host : Host σ) (s : σ) : List Lookup :=
  ((e.eval host.watched).exec (Run.start (s, []))).2.host.2

example : (Expr.call "secret" [.literal (.string "key")] .default).questions (Context.host 0)
    Context.empty = [.secret "key"] := rfl

/-! ## Pure calls -/

/-- No signature of the name with so many parameters is flagged as not pure. -/
def Catalogue.PureCall (name : String) (count : Nat) : Prop :=
  ∀ s ∈ lookup name, s.arity = count → s.isPure = true

/-- The keys of the signatures that are flagged as not pure. -/
def Catalogue.impureKeys : List (String × Nat) :=
  (unsorted.filter (!·.isPure)).map Signature.key

theorem Catalogue.pureCall_iff {name : String} {count : Nat} :
    PureCall name count ↔ (name, count) ∉ impureKeys := by
  simp only [PureCall, mem_lookup, impureKeys, Signature.key, List.mem_map, List.mem_filter,
    Bool.not_eq_true', Prod.mk.injEq, not_exists, not_and]
  refine ⟨fun h s hs hname hcount => ?_, fun h s hs hcount => ?_⟩
  · have := h s ⟨hs.1, hname⟩ hcount
    simp [hs.2] at this
  · by_contra himpure
    exact h s ⟨hs.1, by simpa using himpure⟩ hs.2 hcount

/-- Every function that looks something up is flagged. -/
theorem mem_impureKeys_of_lookupKind? {name : String} {count : Nat} {kind : Lookup.Kind}
    (h : lookupKind? name count = some kind) : (name, count) ∈ Catalogue.impureKeys := by
  unfold lookupKind? at h
  split at h
  · decide
  · decide
  · decide
  · decide
  · cases h

/-- The function that reads the clock is flagged. -/
theorem now_mem_impureKeys : ("now", 0) ∈ Catalogue.impureKeys := by
  decide

/-! ## Pure expressions -/

/-- No call in the expression has a signature that is flagged as not pure. -/
def Expr.PureCalls (e : Expr) : Prop :=
  e.EveryCall fun name count _ => Catalogue.PureCall name count

/-- Two runs whose hosts are still in the states in which they began. -/
structure Run.Untouched (s : σ) (t : τ) (r : Run σ) (u : Run τ) : Prop where
  left : r.host = s
  right : u.host = t
  journal : r.journal = u.journal
  log : r.log = u.log

theorem untouched_keptByWriting (s : σ) (t : τ) : Run.KeptByWriting (Run.Untouched s t) where
  logged record h := ⟨h.left, h.right, h.journal, congrArg (·.push record) h.log⟩
  noted label h := ⟨h.left, h.right, congrArg (·.push label) h.journal, h.log⟩

theorem untouched_start (s : σ) (t : τ) : Run.Untouched s t (Run.start s) (Run.start t) :=
  ⟨rfl, rfl, rfl, rfl⟩

theorem agree_of_pureCalls (host : Host σ) (host' : Host τ) (s : σ) (t : τ) {e : Expr}
    (h : e.PureCalls) : Eval.Agree (Run.Untouched s t) (e.eval host) (e.eval host') := by
  refine Expr.agree_eval (untouched_keptByWriting s t) e ?_
  refine Expr.everyCall_mono (fun name count _ hpure => ⟨?_, fun q hq => ?_⟩) e h
  · rintro rfl rfl
    exact absurd now_mem_impureKeys (Catalogue.pureCall_iff.1 hpure)
  · exact absurd (mem_impureKeys_of_lookupKind? hq) (Catalogue.pureCall_iff.1 hpure)

/-- An expression whose calls are all flagged as pure gives the same result on any two hosts, with
the same journal and the same log. It asks nothing of either, and leaves both as they are. -/
theorem pure_calls_are_the_same_for_all_hosts (host : Host σ) (host' : Host τ) (s : σ) (t : τ)
    (e : Expr) (h : e.PureCalls) :
    let here := (e.eval host).exec (Run.start s)
    let there := (e.eval host').exec (Run.start t)
    here.1 = there.1 ∧ here.2.journal = there.2.journal ∧ here.2.log = there.2.log ∧
      (e.questions host s = [] ∧ here.2.host = s) ∧
      (e.questions host' t = [] ∧ there.2.host = t) := by
  intro here there
  -- Both hosts are watched, since a state that is unchanged says nothing about the questions.
  obtain ⟨hresult, hleft, hright, hjournal, hlog⟩ :=
    agree_of_pureCalls host.watched host'.watched (s, []) (t, []) h _ _ (untouched_start _ _)
  obtain ⟨hhere, hwatch⟩ := agree_watched host e _ _ (watches_start s)
  obtain ⟨hthere, hwatch'⟩ := agree_watched host' e _ _ (watches_start t)
  refine ⟨?_, ?_, ?_, ⟨congrArg Prod.snd hleft, ?_⟩, congrArg Prod.snd hright, ?_⟩
  · exact hhere.symm.trans (hresult.trans hthere)
  · exact hwatch.journal.symm.trans (hjournal.trans hwatch'.journal)
  · exact hwatch.log.symm.trans (hlog.trans hwatch'.log)
  · exact hwatch.host.symm.trans (congrArg Prod.fst hleft)
  · exact hwatch'.host.symm.trans (congrArg Prod.fst hright)

/-- Pure calls in a context and on a host that fails at every look-up, at different times. -/
theorem a_pure_call_is_the_same_on_a_host_that_fails :
    let sealedHost : Host Unit :=
      { resource := fun _ s => (.error (.encoding "malformed resource"), s)
        property := fun _ _ s => (none, s)
        secret := fun _ s => (.error (.vault "vault sealed"), s)
        xpath := fun expression s => (.error (.xpath expression), s)
        clock := 7 }
    let trimmed := Expr.call "trim" [.recorded "source" (.literal (.string " key "))] .default
    let e := Expr.call "endsWith" [trimmed, .literal (.string "y")] .default
    let here := (e.eval (Context.host 0)).exec (Run.start Context.empty)
    let there := (e.eval sealedHost).exec (Run.start ())
    e.PureCalls ∧ here.1 = .ok (.boolean true) ∧ there.1 = .ok (.boolean true) ∧
      there.2.journal = #["source"] ∧ e.questions sealedHost () = [] := by
  intro sealedHost trimmed e here there
  have htrim : Catalogue.PureCall "trim" 1 := Catalogue.pureCall_iff.2 (by decide)
  have hendsWith : Catalogue.PureCall "endsWith" 2 := Catalogue.pureCall_iff.2 (by decide)
  have hpure : e.PureCalls := ⟨hendsWith, ⟨htrim, trivial, trivial⟩, trivial, trivial⟩
  obtain ⟨hresult, hjournal, -, -, hquestions, -⟩ :=
    pure_calls_are_the_same_for_all_hosts (Context.host 0) sealedHost Context.empty () e hpure
  have hhere : here.1 = .ok (.boolean true) := rfl
  have hlabels : here.2.journal = #["source"] := rfl
  exact ⟨hpure, hhere, hresult.symm.trans hhere, hjournal.symm.trans hlabels, hquestions⟩

end Predefined
