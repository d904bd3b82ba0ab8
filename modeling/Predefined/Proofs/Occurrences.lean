-- Where a text occurs in another one. Two functions look for it, one to replace it and one to cut
-- around it. Both take the occurrence that is furthest to the left and go on behind it, also where
-- occurrences overlap; so what stays between the occurrences is the same for both.
import Predefined.Pattern.Basic
import Predefined.Text.Search
import Mathlib.Data.List.Infix

namespace Predefined.Text

open Pattern (occurrences)

section

variable {part new s u v : List Char}

/-! ## Searching -/

theorem contains_iff : contains part s = true ↔ part <:+: s := by
  induction s with
  | nil => rw [contains, List.isEmpty_iff, List.infix_nil]
  | cons c s ih => rw [contains, Bool.or_eq_true, List.isPrefixOf_iff_prefix, ih,
      List.infix_cons_iff]

/-! ## The occurrence furthest to the left -/

/-- No occurrence of `part` in `u ++ part ++ v` begins before the one that is shown. -/
def Leftmost (part u v : List Char) : Prop :=
  ∀ u' v', u' ++ part ++ v' = u ++ part ++ v → u.length ≤ u'.length

theorem Leftmost.of_cons {c : Char} (h : Leftmost part (c :: u) v) : Leftmost part u v := by
  intro u' v' he
  have hle := h (c :: u') v' (by simp only [List.cons_append, he])
  simpa using hle

theorem Leftmost.not_at_start {c : Char} (h : Leftmost part (c :: u) v) :
    ¬part <+: c :: (u ++ part ++ v) := by
  rintro ⟨t, ht⟩
  have hle := h [] t ht
  simp at hle

theorem Leftmost.absent_before (h : Leftmost part u v) (hp : part ≠ []) : ¬part <:+: u := by
  rintro ⟨a, b, rfl⟩
  have hle := h a (b ++ part ++ v) (by simp only [List.append_assoc])
  have hpos := List.length_pos_iff.mpr hp
  simp only [List.length_append] at hle
  omega

theorem exists_leftmost (h : part <:+: s) : ∃ u v, s = u ++ part ++ v ∧ Leftmost part u v := by
  induction s with
  | nil =>
    obtain rfl := List.infix_nil.mp h
    exact ⟨[], [], rfl, fun _ _ _ => Nat.zero_le _⟩
  | cons c s ih =>
    by_cases hpre : part <+: c :: s
    · obtain ⟨v, hv⟩ := hpre
      exact ⟨[], v, hv.symm, fun _ _ _ => Nat.zero_le _⟩
    · obtain ⟨u, v, rfl, hleft⟩ := ih ((List.infix_cons_iff.mp h).resolve_left hpre)
      refine ⟨c :: u, v, rfl, fun u' v' he => ?_⟩
      cases u' with
      | nil => exact absurd ⟨v', he⟩ hpre
      | cons d u' =>
        rw [List.cons_append, List.cons_append, List.cons_append, List.cons_append,
          List.cons.injEq] at he
        exact Nat.succ_le_succ (hleft u' v' he.2)

/-! ## Replacing -/

theorem replaceFrom_skip (w : List Char) :
    replaceFrom part new w.length (w ++ s) = replaceFrom part new 0 s := by
  induction w with
  | nil => rfl
  | cons c w ih =>
    rw [List.cons_append, List.length_cons, replaceFrom, if_pos (Nat.succ_pos _),
      Nat.add_sub_cancel, ih]

theorem replaceFrom_part (hp : part ≠ []) :
    replaceFrom part new 0 (part ++ s) = new ++ replaceFrom part new 0 s := by
  obtain ⟨c, w, rfl⟩ := List.exists_cons_of_ne_nil hp
  have hpre : (c :: w).isPrefixOf (c :: (w ++ s)) :=
    List.isPrefixOf_iff_prefix.mpr (List.prefix_append (c :: w) s)
  rw [List.cons_append, replaceFrom, if_neg (lt_irrefl 0), if_pos hpre, List.length_cons,
    Nat.add_sub_cancel, replaceFrom_skip]

theorem replaceFrom_cons {c : Char} (h : ¬part <+: c :: s) :
    replaceFrom part new 0 (c :: s) = c :: replaceFrom part new 0 s := by
  rw [replaceFrom, if_neg (lt_irrefl 0), if_neg (mt List.isPrefixOf_iff_prefix.mp h)]

theorem replaceFrom_of_absent (h : ¬part <:+: s) : replaceFrom part new 0 s = s := by
  induction s with
  | nil => rfl
  | cons c s ih =>
    obtain ⟨hpre, hinf⟩ := not_or.mp (mt List.infix_cons_iff.mpr h)
    rw [replaceFrom_cons hpre, ih hinf]

theorem replaceFrom_of_leftmost (hp : part ≠ []) (h : Leftmost part u v) :
    replaceFrom part new 0 (u ++ part ++ v) = u ++ new ++ replaceFrom part new 0 v := by
  induction u with
  | nil => exact replaceFrom_part hp
  | cons c u ih => rw [List.cons_append, List.cons_append, replaceFrom_cons h.not_at_start,
      ih h.of_cons, List.cons_append, List.cons_append]

/-! ## Cutting -/

theorem stop_of_mem_occurrences {position skip : Nat} :
    ∀ m ∈ occurrences part position skip s, m.stop = m.start + part.length := by
  induction s generalizing position skip with
  | nil =>
    rw [occurrences]
    split
    · rename_i hpart
      simp [List.isEmpty_iff.mp hpart]
    · simp
  | cons c s ih =>
    rw [occurrences]
    split
    · exact ih
    · split
      · exact List.forall_mem_cons.mpr ⟨rfl, ih⟩
      · exact ih

theorem occurrences_skip (w : List Char) (position : Nat) :
    occurrences part position w.length (w ++ s) = occurrences part (position + w.length) 0 s := by
  induction w generalizing position with
  | nil => rfl
  | cons c w ih =>
    rw [List.cons_append, List.length_cons, occurrences, if_pos (Nat.succ_pos _),
      Nat.add_sub_cancel, ih, Nat.add_right_comm, Nat.add_assoc]

theorem occurrences_part (hp : part ≠ []) (position : Nat) :
    occurrences part position 0 (part ++ s) =
      ⟨position, position + part.length⟩ :: occurrences part (position + part.length) 0 s := by
  obtain ⟨c, w, rfl⟩ := List.exists_cons_of_ne_nil hp
  have hpre : (c :: w).isPrefixOf (c :: (w ++ s)) :=
    List.isPrefixOf_iff_prefix.mpr (List.prefix_append (c :: w) s)
  rw [List.cons_append, occurrences, if_neg (lt_irrefl 0), if_pos hpre, List.length_cons,
    Nat.add_sub_cancel, occurrences_skip, Nat.add_right_comm, Nat.add_assoc]

theorem occurrences_cons {c : Char} (h : ¬part <+: c :: s) (position : Nat) :
    occurrences part position 0 (c :: s) = occurrences part (position + 1) 0 s := by
  rw [occurrences, if_neg (lt_irrefl 0), if_neg (mt List.isPrefixOf_iff_prefix.mp h)]

theorem occurrences_of_absent (h : ¬part <:+: s) (position : Nat) :
    occurrences part position 0 s = [] := by
  induction s generalizing position with
  | nil =>
    have hne : ¬part.isEmpty := fun he => h (List.isEmpty_iff.mp he ▸ List.infix_refl [])
    rw [occurrences, if_neg hne]
  | cons c s ih =>
    obtain ⟨hpre, hinf⟩ := not_or.mp (mt List.infix_cons_iff.mpr h)
    rw [occurrences_cons hpre, ih hinf]

theorem occurrences_of_leftmost (hp : part ≠ []) (h : Leftmost part u v) (position : Nat) :
    occurrences part position 0 (u ++ part ++ v) =
      ⟨position + u.length, position + u.length + part.length⟩ ::
        occurrences part (position + u.length + part.length) 0 v := by
  induction u generalizing position with
  | nil => exact occurrences_part hp position
  | cons c u ih =>
    rw [List.cons_append, List.cons_append, occurrences_cons h.not_at_start, ih h.of_cons,
      List.length_cons, Nat.add_right_comm position 1, Nat.add_assoc position]

/-! ## Pieces between occurrences -/

/-- The pieces of a text between occurrences of `part`, which are taken from left to right. -/
inductive Separated (part : List Char) : List (List Char) → List Char → Prop
  | last {s : List Char} : ¬part <:+: s → Separated part [s] s
  | more {u v : List Char} {qs : List (List Char)} :
      Leftmost part u v → Separated part qs v → Separated part (u :: qs) (u ++ part ++ v)

theorem exists_separated (hp : part ≠ []) (s : List Char) : ∃ qs, Separated part qs s := by
  induction hn : s.length using Nat.strong_induction_on generalizing s with
  | _ n ih =>
    by_cases h : part <:+: s
    · obtain ⟨u, v, rfl, hleft⟩ := exists_leftmost h
      have hpos := List.length_pos_iff.mpr hp
      simp only [List.length_append] at hn
      obtain ⟨qs, hqs⟩ := ih v.length (by omega) v rfl
      exact ⟨u :: qs, .more hleft hqs⟩
    · exact ⟨[s], .last h⟩

namespace Separated

variable {qs : List (List Char)}

theorem ne_nil (h : Separated part qs s) : qs ≠ [] := by
  cases h <;> exact List.cons_ne_nil _ _

/-- No piece contains what separates the pieces. -/
theorem absent (h : Separated part qs s) (hp : part ≠ []) : ∀ q ∈ qs, ¬part <:+: q := by
  induction h with
  | last hs => simpa using hs
  | more hleft _ ih => exact List.forall_mem_cons.mpr ⟨hleft.absent_before hp, ih⟩

theorem eq_intercalate (h : Separated part qs s) : s = part.intercalate qs := by
  induction h with
  | last _ => rw [List.intercalate_singleton]
  | more _ hv ih => rw [List.intercalate_cons_of_ne_nil hv.ne_nil, ← ih]

theorem replaceFrom_eq (h : Separated part qs s) (hp : part ≠ []) (new : List Char) :
    replaceFrom part new 0 s = new.intercalate qs := by
  induction h with
  | last hs => rw [replaceFrom_of_absent hs, List.intercalate_singleton]
  | more hleft hv ih =>
    rw [replaceFrom_of_leftmost hp hleft, List.intercalate_cons_of_ne_nil hv.ne_nil, ih]

theorem cut_eq (h : Separated part qs s) (hp : part ≠ []) (position : Nat) :
    cut position s (occurrences part position 0 s) = qs := by
  induction h generalizing position with
  | last hs => rw [occurrences_of_absent hs, cut]
  | @more u v qs hleft _ ih =>
    rw [occurrences_of_leftmost hp hleft, cut]
    simp only
    rw [Nat.add_sub_cancel_left, List.append_assoc, List.take_left, ← List.append_assoc,
      Nat.add_assoc, Nat.add_sub_cancel_left, ← List.length_append, List.drop_left, ih]

end Separated

theorem ofList_intercalate (r : String) (qs : List (List Char)) :
    String.ofList (r.toList.intercalate qs) = r.intercalate (qs.map String.ofList) := by
  apply String.toList_inj.mp
  rw [String.toList_ofList, String.toList_intercalate, List.map_map]
  congr 1
  exact (List.map_id'' (fun _ => String.toList_ofList) qs).symm

end

end Predefined.Text
