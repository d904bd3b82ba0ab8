-- What the nodes of an expression are: its calls, the labels of its recorded nodes, and the
-- look-ups that its calls make, each in the order of evaluation.
import Predefined.Proofs.Plan

namespace Predefined.Expr

/-! ## Calls -/

mutual

/-- Every call in an expression satisfies a condition on its name, the number of its arguments and
its settings. -/
def EveryCall (p : String → Nat → Settings → Prop) : Expr → Prop
  | literal _ | failing _ => True
  | recorded _ inner => inner.EveryCall p
  | call name es settings => p name es.length settings ∧ EveryCallIn p es

def EveryCallIn (p : String → Nat → Settings → Prop) : List Expr → Prop
  | [] => True
  | e :: es => e.EveryCall p ∧ EveryCallIn p es

end

mutual

theorem everyCall_of_forall {p : String → Nat → Settings → Prop}
    (hp : ∀ name count settings, p name count settings) (e : Expr) : e.EveryCall p := by
  match e with
  | literal _ | failing _ => trivial
  | recorded _ inner => exact everyCall_of_forall hp inner
  | call name es settings => exact ⟨hp name es.length settings, everyCallIn_of_forall hp es⟩

theorem everyCallIn_of_forall {p : String → Nat → Settings → Prop}
    (hp : ∀ name count settings, p name count settings) (es : List Expr) : EveryCallIn p es := by
  match es with
  | [] => trivial
  | e :: es => exact ⟨everyCall_of_forall hp e, everyCallIn_of_forall hp es⟩

end

mutual

theorem everyCall_mono {p q : String → Nat → Settings → Prop}
    (hpq : ∀ name count settings, p name count settings → q name count settings) (e : Expr)
    (h : e.EveryCall p) : e.EveryCall q := by
  match e, h with
  | literal _, _ | failing _, _ => trivial
  | recorded _ inner, h => exact everyCall_mono hpq inner h
  | call _ es _, ⟨hp, hes⟩ => exact ⟨hpq _ _ _ hp, everyCallIn_mono hpq es hes⟩

theorem everyCallIn_mono {p q : String → Nat → Settings → Prop}
    (hpq : ∀ name count settings, p name count settings → q name count settings) (es : List Expr)
    (h : EveryCallIn p es) : EveryCallIn q es := by
  match es, h with
  | [], _ => trivial
  | e :: es, ⟨he, hes⟩ => exact ⟨everyCall_mono hpq e he, everyCallIn_mono hpq es hes⟩

end

/-- Nothing in the expression asks for the time. -/
def Timeless (e : Expr) : Prop :=
  e.EveryCall fun name count _ => ¬ (name = "now" ∧ count = 0)

/-- No call in the expression turns a failure into a value. -/
def NoExists (e : Expr) : Prop :=
  e.EveryCall fun name count _ => ¬ (name = "exists" ∧ count = 1)

/-! ## Labels and look-ups -/

mutual

/-- The labels from left to right, each before those inside it. -/
def labels : Expr → List String
  | literal _ | failing _ => []
  | recorded label inner => label :: inner.labels
  | call _ es _ => labelsIn es

def labelsIn : List Expr → List String
  | [] => []
  | e :: es => e.labels ++ labelsIn es

end

mutual

/-- The look-ups of calls from left to right, each after those of its arguments. -/
def lookups : Expr → List Lookup.Kind
  | literal _ | failing _ => []
  | recorded _ inner => inner.lookups
  | call name es _ => lookupsIn es ++ (lookupKind? name es.length).toList

def lookupsIn : List Expr → List Lookup.Kind
  | [] => []
  | e :: es => e.lookups ++ lookupsIn es

end

end Predefined.Expr
