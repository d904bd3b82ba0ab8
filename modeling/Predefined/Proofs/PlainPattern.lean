-- Patterns without special characters. They are taken for texts and looked for as such, and that is
-- no more than a short cut: read as a regular expression such a pattern means its own text, needs
-- the same room, and has the same matches.
import Predefined.Proofs.TextProgram

namespace Predefined.Pattern

/-! ## Reading -/

section Reading

variable {cs : List Char}

theorem read_of_not_special {c : Char} (hc : c ∉ special) (s : Token.Reading) (rest : List Char) :
    Token.read s (c :: rest) = .ok (.atom (.char c), rest, s) := by
  unfold Token.read
  split <;> rename_i heq <;> cases heq <;> first
    | exact absurd (by decide) hc
    | rfl

theorem readAll_of_not_special (hcs : ∀ c ∈ cs, c ∉ special) {bound : Nat}
    (hbound : cs.length < bound) :
    Token.readAll ⟨false, [], []⟩ bound cs = .ok (cs.map fun c => .atom (.char c)) := by
  induction cs generalizing bound with
  | nil =>
    obtain ⟨bound, rfl⟩ := Nat.exists_eq_add_of_lt hbound
    rfl
  | cons c cs ih =>
    obtain ⟨hc, hcs⟩ := List.forall_mem_cons.mp hcs
    cases bound with
    | zero => exact absurd hbound (Nat.not_lt_zero _)
    | succ bound =>
      have hrest := ih hcs (Nat.lt_of_succ_lt_succ hbound)
      have hread := read_of_not_special hc ⟨false, [], []⟩ cs
      simp only [Token.readAll, skip, Bool.false_eq_true, if_false, hread]
      show (Token.readAll ⟨false, [], []⟩ bound cs >>= fun ts => _) = _
      rw [hrest]
      rfl

/-- The items of a plain pattern. -/
def items (cs : List Char) : List Tree :=
  cs.map fun c => .atom (.char c)

theorem foldlM_step (cs : List Char) (before : List Tree) :
    (cs.map fun c => Token.atom (.char c)).foldlM Tree.Assembly.step
        ⟨⟨none, [], before, []⟩, [], 0⟩ =
      .ok ⟨⟨none, [], (items cs).reverse ++ before, []⟩, [], 0⟩ := by
  induction cs generalizing before with
  | nil => rfl
  | cons c cs ih =>
    have hstep : Tree.Assembly.step ⟨⟨none, [], before, []⟩, [], 0⟩ (.atom (.char c)) =
        .ok ⟨⟨none, [], .atom (.char c) :: before, []⟩, [], 0⟩ := rfl
    rw [List.map_cons, List.foldlM_cons, hstep]
    refine (ih _).trans ?_
    simp [items]

theorem ofTokens_of_chars (cs : List Char) :
    Tree.ofTokens (cs.map fun c => .atom (.char c)) = .ok (Tree.ofItems (items cs)) := by
  rw [Tree.ofTokens, Tree.Level.start, foldlM_step, List.append_nil]
  show Except.ok (Tree.ofItems (items cs).reverse.reverse) = _
  rw [List.reverse_reverse]

theorem depth_ofItems (cs : List Char) (parent : Tree.Parent) :
    (Tree.ofItems (items cs)).depth parent ≤ if parent = .sequence then 0 else 1 := by
  induction cs generalizing parent with
  | nil => exact Nat.zero_le _
  | cons c cs ih =>
    cases cs with
    | nil => exact Nat.zero_le _
    | cons d cs =>
      have hrest : (Tree.ofItems (items (d :: cs))).depth .sequence = 0 :=
        Nat.le_zero.mp (ih .sequence)
      show max 0 ((Tree.ofItems (items (d :: cs))).depth .sequence) + _ ≤ _
      rw [hrest, max_self, Nat.zero_add]

theorem ofChar_initial (c : Char) : Regular.ofChar Flags.initial c = .text [c] := by
  have hset : (if Flags.initial.has .unicode || c.toNat < 128 then Flags.initial.fold (.single c)
      else .single c) = CharSet.single c := rfl
  rw [Regular.ofChar, hset]
  simp [Regular.ofSet, CharSet.single, CharSet.range]

theorem ofTree_ofItems (cs : List Char) :
    Regular.ofTree Flags.initial (Tree.ofItems (items cs)) = .ok ([plain cs], Flags.initial) := by
  induction cs with
  | nil => rfl
  | cons c cs ih =>
    have hatom : Regular.ofTree Flags.initial (.atom (.char c)) =
        .ok ([.text [c]], Flags.initial) := by
      rw [← ofChar_initial]
      rfl
    cases cs with
    | nil => exact hatom
    | cons d cs =>
      show (Regular.ofTree Flags.initial (.atom (.char c)) >>= fun _ => _) = _
      rw [hatom]
      show (Regular.ofTree Flags.initial (Tree.ofItems (items (d :: cs))) >>= fun _ => _) = _
      rw [ih]
      rfl

/-- A pattern without special characters means its own text. -/
theorem ofPattern_of_not_special (hcs : ∀ c ∈ cs, c ∉ special) :
    Regular.ofPattern cs = .ok (plain cs) := by
  have hdepth : (Tree.ofItems (items cs)).depth .other ≤ Tree.depthLimit :=
    (depth_ofItems cs .other).trans (by decide)
  have htree : Tree.ofPattern cs = .ok (Tree.ofItems (items cs)) := by
    rw [Tree.ofPattern, Token.ofPattern, readAll_of_not_special hcs (Nat.lt_succ_self _)]
    show (Tree.ofTokens (cs.map fun c => .atom (.char c)) >>= fun _ => _) = _
    rw [ofTokens_of_chars]
    exact if_pos hdepth
  rw [Regular.ofPattern, htree]
  show (Regular.ofTree Flags.initial (Tree.ofItems (items cs)) >>= fun _ => _) = _
  rw [ofTree_ofItems]
  rfl

end Reading

/-! ## Matching -/

theorem check_eq_ok {r r' : Regular} (h : r.check = .ok r') : r' = r := by
  unfold Regular.check at h
  split at h
  · exact (Except.ok.inj h).symm
  · split at h
    · exact (Except.ok.inj h).symm
    · cases h

/-- Every pattern has the matches that it has as a regular expression, and is refused for the same
fault. -/
theorem compile_agrees_with_the_regular_expression (s : String) :
    (compile s).map spans =
      (Regular.ofPattern s.toList >>= Regular.check).map fun r => (Program.ofRegular r).spans := by
  rw [compile]
  by_cases hspecial : s.toList.any special.contains = true
  · rw [if_pos hspecial]
    rcases Regular.ofPattern s.toList with fault | r
    · rfl
    · show (r.check >>= fun _ => _).map _ = r.check.map _
      cases r.check <;> rfl
  · have hplain : ∀ c ∈ s.toList, c ∉ special := by simpa using hspecial
    rw [if_neg hspecial, ofPattern_of_not_special hplain]
    show ((plain s.toList).check >>= fun _ => _).map _ = (plain s.toList).check.map _
    rcases hcheck : (plain s.toList).check with fault | r
    · rfl
    · obtain rfl := check_eq_ok hcheck
      exact congrArg Except.ok (funext fun t => (spans_plain s.toList t).symm)

end Predefined.Pattern
