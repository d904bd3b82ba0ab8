-- In what order the arguments of a call can fail. Nodes are evaluated from left to right until one
-- fails, and the values are looked at only when all nodes have given theirs. A node may be anything
-- that is evaluated, so the laws are about a list of nodes and a step that evaluates each of them:
-- what holds of every such step holds of one that counts how often it is taken, too. Expressions
-- are nodes of this kind (`evalAll_eq_mapM`).
import Predefined.Context
import Predefined.Proofs.Steps

namespace Predefined

variable {σ α : Type} {evaluate : α → Eval σ Value}

/-! ## The values of arguments -/

section Values

variable {n : Nat} {function : String} {m : Eval σ (List Value)} {r s : Run σ} {vs : List Value}

theorem argumentValues_of_error {e : EvalError} (h : m.exec r = (.error e, s)) :
    (argumentValues n function m).exec r = (.error e, s) :=
  Eval.exec_bind_of_error h _

theorem argumentValues_of_null {role : Role} (h : m.exec r = (.ok vs, s))
    (hnull : leftmostNull vs = some role) :
    (argumentValues n function m).exec r = (.error (.nullArgument function role), s) := by
  have hcheck : checkArguments function vs = .error (.nullArgument function role) := by
    simp only [checkArguments_eq, hnull]
  rw [argumentValues, Eval.exec_bind_of_ok h, hcheck]
  rfl

/-- Without a null among the values, only their number matters. -/
theorem argumentValues_of_present (h : m.exec r = (.ok vs, s)) (hnull : leftmostNull vs = none) :
    (argumentValues n function m).exec r =
      (if h : vs.length = n then .ok ⟨vs.toArray, h⟩
        else .error (.argumentCount function vs.length), s) := by
  have hcheck : checkArguments function vs = .ok () := by simp only [checkArguments_eq, hnull]
  rw [argumentValues, Eval.exec_bind_of_ok h, hcheck]
  by_cases hlen : vs.length = n
  · simp only [dif_pos hlen]
    rfl
  · simp only [dif_neg hlen]
    rfl

end Values

/-! ## The order of failures -/

/-- What becomes of nodes whose values are taken as the `n` arguments of a function, and the run
that this leaves behind. -/
inductive Takes (evaluate : α → Eval σ Value) (n : Nat) (function : String) (nodes : List α)
    (r : Run σ) : Except EvalError (Vector Value n) → Run σ → Prop where
  /-- A node fails, and all before it give values. Those behind it leave nothing in the run. -/
  | failure {before after : List α} {node : α} {vs : List Value} {s t : Run σ} {e : EvalError}
    (split : nodes = before ++ node :: after) (values : GiveValues evaluate before r vs t)
    (fails : (evaluate node).exec t = (.error e, s)) :
    Takes evaluate n function nodes r (.error e) s
  /-- All nodes give values, and the first null is at a place that has a role. -/
  | null {vs : List Value} {s : Run σ} {i : Nat} {role : Role}
    (values : GiveValues evaluate nodes r vs s) (named : Role.all[i]? = some role)
    (here : vs[i]? = some .null) (first : ∀ v ∈ vs.take i, v ≠ .null) :
    Takes evaluate n function nodes r (.error (.nullArgument function role)) s
  /-- All nodes give values, the first three are not null, and there are not `n` nodes. -/
  | count {vs : List Value} {s : Run σ} (values : GiveValues evaluate nodes r vs s)
    (present : ∀ v ∈ vs.take 3, v ≠ .null) (other : nodes.length ≠ n) :
    Takes evaluate n function nodes r (.error (.argumentCount function nodes.length)) s
  | values {vs : Vector Value n} {s : Run σ} (values : GiveValues evaluate nodes r vs.toList s)
    (present : ∀ v ∈ vs.toList.take 3, v ≠ .null) :
    Takes evaluate n function nodes r (.ok vs) s

theorem Takes.exec_eq {n : Nat} {function : String} {nodes : List α} {r s : Run σ}
    {result : Except EvalError (Vector Value n)}
    (h : Takes evaluate n function nodes r result s) :
    (argumentValues n function (nodes.mapM evaluate)).exec r = (result, s) := by
  cases h with
  | failure hsplit hvs hnode =>
    rw [hsplit]
    exact argumentValues_of_error (hvs.exec_mapM_of_error hnode _)
  | null hvs hrole hnull hfirst =>
    exact argumentValues_of_null hvs.exec_mapM
      (leftmostNull_eq_some_iff.2 ⟨_, hrole, hnull, hfirst⟩)
  | count hvs hpresent hother =>
    rw [argumentValues_of_present hvs.exec_mapM (leftmostNull_eq_none_iff.2 hpresent),
      dif_neg (by rwa [hvs.length_eq]), hvs.length_eq]
  | values hvs hpresent =>
    rw [argumentValues_of_present hvs.exec_mapM (leftmostNull_eq_none_iff.2 hpresent),
      dif_pos (Vector.length_toList ..)]
    rfl

/-- One of the four cases is always met. -/
theorem exists_takes (evaluate : α → Eval σ Value) (n : Nat) (function : String) (nodes : List α)
    (r : Run σ) : ∃ result s, Takes evaluate n function nodes r result s := by
  rcases give_values_or_fail evaluate nodes r with
    ⟨vs, s, hvs⟩ | ⟨before, node, after, vs, t, e, s, hsplit, hvs, hnode⟩
  · rcases hnull : leftmostNull vs with _ | role
    · have hpresent := leftmostNull_eq_none_iff.1 hnull
      by_cases hlen : nodes.length = n
      · have hvector : vs.toArray.size = n := hvs.length_eq.trans hlen
        exact ⟨.ok ⟨vs.toArray, hvector⟩, s, .values hvs hpresent⟩
      · exact ⟨_, s, .count hvs hpresent hlen⟩
    · obtain ⟨i, hrole, hi, hfirst⟩ := leftmostNull_eq_some_iff.1 hnull
      exact ⟨_, s, .null hvs hrole hi hfirst⟩
  · exact ⟨_, s, .failure hsplit hvs hnode⟩

/-- When the values of nodes are taken as the `n` arguments of a function, the first node that fails
comes before a null, a null before a wrong number of nodes, and only without any of them are there
values, those of the nodes in order. The run afterwards is the one that the last evaluated node
leaves. So it is for nodes of any kind, and for expressions on any host. -/
theorem arguments_are_taken_in_order_of_precedence (n : Nat) (function : String) (r s : Run σ)
    (result : Except EvalError (Vector Value n)) :
    (∀ {α : Type} (evaluate : α → Eval σ Value) (nodes : List α),
      (argumentValues n function (nodes.mapM evaluate)).exec r = (result, s) ↔
        Takes evaluate n function nodes r result s) ∧
    ∀ (host : Host σ) (es : List Expr),
      (argumentValues n function (Expr.evalAll host es)).exec r = (result, s) ↔
        Takes (Expr.eval host) n function es r result s := by
  have hnodes : ∀ {α : Type} (evaluate : α → Eval σ Value) (nodes : List α),
      (argumentValues n function (nodes.mapM evaluate)).exec r = (result, s) ↔
        Takes evaluate n function nodes r result s := by
    intro α evaluate nodes
    refine ⟨fun h => ?_, Takes.exec_eq⟩
    -- The case that is met gives the same result, as a step has one result only.
    obtain ⟨result', s', htakes⟩ := exists_takes evaluate n function nodes r
    have hsame : (result, s) = (result', s') := h.symm.trans htakes.exec_eq
    cases hsame
    exact htakes
  refine ⟨hnodes, fun host es => ?_⟩
  rw [Expr.evalAll_eq_mapM]
  exact hnodes (Expr.eval host) es

/-- The fourth argument has no role, so it may be null, and it is evaluated like the others. -/
theorem a_fourth_argument_may_be_null :
    let host := Context.host 0
    let r := Run.start Context.empty
    let es := [.literal (.integer 1), .literal (.integer 2), .literal (.integer 3),
      .recorded "fourth" (.literal .null)]
    (argumentValues 4 "f" (Expr.evalAll host es)).exec r =
      (.ok #v[.integer 1, .integer 2, .integer 3, .null], r.noted "fourth") := by
  intro host r es
  refine ((arguments_are_taken_in_order_of_precedence 4 "f" r _ _).2 host es).2 ?_
  have hvalues : GiveValues (Expr.eval host) es r
      [.integer 1, .integer 2, .integer 3, .null] (r.noted "fourth") :=
    .cons rfl (.cons rfl (.cons rfl (.cons rfl .nil)))
  exact .values hvalues (by simp)

end Predefined
