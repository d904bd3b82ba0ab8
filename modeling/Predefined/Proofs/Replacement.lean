-- Replacing a text in another one. The occurrences are taken from the left and do not overlap, and
-- what is put in their places is not looked at again. So the outcome is made up of pieces that do
-- not depend on the new text, and no character means anything but itself.
import Mathlib.Logic.Equiv.Basic
import Predefined.Proofs.Slices

namespace Predefined

namespace Text

variable {part s u v : List Char} {qs : List (List Char)}

/-! ## Renaming characters -/

section

variable {f : Char → Char}

theorem Leftmost.map (hf : Function.Injective f) (h : Leftmost part u v) :
    Leftmost (part.map f) (u.map f) (v.map f) := by
  intro u' v' he
  rw [← List.map_append, ← List.map_append, eq_comm, List.map_eq_append_iff] at he
  obtain ⟨w, v'', hw, hw', rfl⟩ := he
  obtain ⟨u'', p, rfl, rfl, hp⟩ := List.map_eq_append_iff.mp hw'
  obtain rfl := List.map_injective_iff.mpr hf hp
  simpa using h u'' v'' hw.symm

/-- The pieces between occurrences are the same under other characters. -/
theorem Separated.map (hf : Function.Injective f) (h : Separated part qs s) :
    Separated (part.map f) (qs.map (List.map f)) (s.map f) := by
  induction h with
  | last hs =>
    apply Separated.last
    intro hinfix
    obtain ⟨l, hl, he⟩ := List.infix_map_iff.mp hinfix
    exact hs (List.map_injective_iff.mpr hf he ▸ hl)
  | more hleft _ ih =>
    rw [List.map_append, List.map_append]
    exact .more (hleft.map hf) ih

end

/-! ## Pieces that stay -/

theorem replace_of_separated (h : Separated part qs s) (hp : part ≠ []) (new : List Char) :
    replace part new s = new.intercalate qs := by
  unfold replace
  rw [if_neg (mt List.isEmpty_iff.mp hp), h.replaceFrom_eq hp]

/-- Around the occurrences of the empty text there are the single characters, and nothing at both
ends. -/
theorem replace_nil (new s : List Char) :
    replace [] new s = new.intercalate ([] :: (s.map ([·]) ++ [[]])) := by
  rw [List.intercalate_cons_of_ne_nil (by simp), List.nil_append]
  induction s with
  | nil => simp [replace]
  | cons c s ih =>
    have hstep : replace [] new (c :: s) = new ++ [c] ++ replace [] new s := by
      simp [replace]
    rw [hstep, ih, List.map_cons, List.cons_append, List.intercalate_cons_of_ne_nil (by simp)]
    simp only [List.append_assoc]

/-- A text is made up of pieces that neither the new text nor the meaning of a character has an
influence on. -/
theorem exists_pieces (part s : List Char) :
    ∃ qs, s = part.intercalate qs ∧ (∀ new, replace part new s = new.intercalate qs) ∧
      ∀ f : Char → Char, Function.Injective f → ∀ new,
        replace (part.map f) new (s.map f) = new.intercalate (qs.map (List.map f)) := by
  -- the empty text occurs everywhere, which no search finds
  by_cases hp : part = []
  · subst hp
    refine ⟨[] :: (s.map ([·]) ++ [[]]), ?_, fun new => replace_nil new s, fun f _ new => ?_⟩
    · rw [← replace_nil]
      simp [replace]
    · rw [List.map_nil, replace_nil, List.map_cons, List.map_append, List.map_map, List.map_map]
      rfl
  · obtain ⟨qs, hqs⟩ := exists_separated hp s
    refine ⟨qs, hqs.eq_intercalate, replace_of_separated hqs hp, fun f hf new => ?_⟩
    exact replace_of_separated (hqs.map hf) (mt List.map_eq_nil_iff.mp hp) new

end Text

/-! ## Replacing in strings -/

section

variable {s t u v : String}

/-- Among strings the shortest text before an occurrence shows the leftmost one. -/
theorem leftmost_of_shortest (h : ∀ u' v', u ++ t ++ v = u' ++ t ++ v' → u.length ≤ u'.length) :
    Text.Leftmost t.toList u.toList v.toList := by
  intro u' v' he
  have hstrings : u ++ t ++ v = String.ofList u' ++ t ++ String.ofList v' := by
    apply String.toList_inj.mp
    simp only [String.toList_append, String.toList_ofList, he]
  have hle := h _ _ hstrings
  rwa [String.length_ofList, ← String.length_toList] at hle

theorem exists_shortest (h : t.toList <:+: s.toList) :
    ∃ u v, s = u ++ t ++ v ∧ ∀ u' v', s = u' ++ t ++ v' → u.length ≤ u'.length := by
  obtain ⟨u, v, hs, hleft⟩ := Text.exists_leftmost h
  refine ⟨String.ofList u, String.ofList v, ?_, fun u' v' he => ?_⟩
  · apply String.toList_inj.mp
    simp only [String.toList_append, String.toList_ofList, hs]
  · subst he
    rw [String.toList_append, String.toList_append] at hs
    rw [String.length_ofList, ← String.length_toList]
    exact hleft u'.toList v'.toList hs

end

namespace Value

theorem replace_eq (s t r : String) :
    replace (string s) (string t) (string r) =
      .ok (string (String.ofList (Text.replace t.toList r.toList s.toList))) :=
  rfl

section

variable {s t u v : String}

theorem replace_of_absent (ht : t ≠ "") (h : ¬t.toList <:+: s.toList) (r : String) :
    replace (string s) (string t) (string r) = .ok (string s) := by
  have hne : ¬t.toList.isEmpty := by simpa using ht
  rw [replace_eq, Text.replace, if_neg hne, Text.replaceFrom_of_absent h, String.ofList_toList]

/-- What is behind the first occurrence is all that is left to do. -/
theorem replace_of_shortest (ht : t ≠ "")
    (h : ∀ u' v', u ++ t ++ v = u' ++ t ++ v' → u.length ≤ u'.length) (r : String) :
    ∃ w, replace (string v) (string t) (string r) = .ok (string w) ∧
      replace (string (u ++ t ++ v)) (string t) (string r) = .ok (string (u ++ r ++ w)) := by
  have hne : t.toList ≠ [] := by simpa using ht
  have hne' : ¬t.toList.isEmpty := mt List.isEmpty_iff.mp hne
  refine ⟨_, replace_eq v t r, ?_⟩
  rw [replace_eq, String.toList_append, String.toList_append, Text.replace, Text.replace,
    if_neg hne', if_neg hne', Text.replaceFrom_of_leftmost hne (leftmost_of_shortest h)]
  simp only [String.ofList_append, String.ofList_toList]

theorem replace_empty (s r : String) :
    replace (string s) (string "") (string r) =
      .ok (string (String.join (s.toList.map fun c => r ++ String.singleton c) ++ r)) := by
  have hjoin : String.ofList (s.toList.flatMap fun c => r.toList ++ [c]) =
      String.join (s.toList.map fun c => r ++ String.singleton c) := by
    apply String.toList_inj.mp
    rw [String.toList_ofList, String.toList_join, List.flatMap_map]
    simp only [String.toList_append, String.toList_singleton]
  have hempty : "".toList.isEmpty := rfl
  rw [replace_eq, Text.replace, if_pos hempty, String.ofList_append, hjoin, String.ofList_toList]

/-- The pieces of a string around the occurrences of another one, which it is made up of. -/
theorem exists_replace_pieces (s t : String) :
    ∃ pieces : List String, s = t.intercalate pieces ∧
      (∀ r, replace (string s) (string t) (string r) = .ok (string (r.intercalate pieces))) ∧
      ∀ f : Char → Char, Function.Injective f → ∀ r,
        replace (string (s.map f)) (string (t.map f)) (string r) =
          .ok (string (r.intercalate (pieces.map (·.map f)))) := by
  obtain ⟨qs, hs, hreplace, hrename⟩ := Text.exists_pieces t.toList s.toList
  refine ⟨qs.map String.ofList, ?_, fun r => ?_, fun f hf r => ?_⟩
  · rw [← Text.ofList_intercalate, ← hs, String.ofList_toList]
  · rw [replace_eq, hreplace, Text.ofList_intercalate]
  · have hmap : (qs.map String.ofList).map (·.map f) = (qs.map (List.map f)).map String.ofList := by
      rw [List.map_map, List.map_map]
      refine List.map_congr_left fun q _ => ?_
      apply String.toList_inj.mp
      simp only [Function.comp_apply, String.toList_map, String.toList_ofList]
    rw [replace_eq, String.toList_map, String.toList_map, hrename f hf, Text.ofList_intercalate,
      hmap]

end

end Value

/-- Occurrences give way from left to right, and what is put in their places is not looked at again.
The pieces around them depend neither on the new text nor on what a character means. -/
theorem replacing_goes_from_left_to_right :
    (∀ s t r : String, t ≠ "" →
      (Value.contains (.string s) (.string t) = .ok (.boolean false) →
        Value.replace (.string s) (.string t) (.string r) = .ok (.string s)) ∧
      (Value.contains (.string s) (.string t) = .ok (.boolean true) →
        ∃ u v, s = u ++ t ++ v ∧ ∀ u' v', s = u' ++ t ++ v' → u.length ≤ u'.length) ∧
      ∀ u v, s = u ++ t ++ v → (∀ u' v', s = u' ++ t ++ v' → u.length ≤ u'.length) →
        ∃ w, Value.replace (.string v) (.string t) (.string r) = .ok (.string w) ∧
          Value.replace (.string s) (.string t) (.string r) = .ok (.string (u ++ r ++ w))) ∧
    (∀ s r : String, Value.replace (.string s) (.string "") (.string r) =
      .ok (.string (String.join (s.toList.map fun c => r ++ String.singleton c) ++ r))) ∧
    (∀ s t : String, Value.replace (.string s) (.string t) (.string t) = .ok (.string s)) ∧
    ∀ s t : String, ∃ pieces : List String, s = t.intercalate pieces ∧
      (∀ r, Value.replace (.string s) (.string t) (.string r) =
        .ok (.string (r.intercalate pieces))) ∧
      ∀ f : Char → Char, Function.Injective f → ∀ r,
        Value.replace (.string (s.map f)) (.string (t.map f)) (.string r) =
          .ok (.string (r.intercalate (pieces.map (·.map f)))) := by
  refine ⟨fun s t r ht => ⟨fun h => ?_, fun h => ?_, ?_⟩, Value.replace_empty, fun s t => ?_,
    Value.exists_replace_pieces⟩
  · rw [Value.contains_eq, Except.ok.injEq, Value.boolean.injEq, ← Bool.not_eq_true,
      Text.contains_iff] at h
    exact Value.replace_of_absent ht h r
  · rw [Value.contains_eq, Except.ok.injEq, Value.boolean.injEq, Text.contains_iff] at h
    exact exists_shortest h
  · rintro u v rfl hshortest
    exact Value.replace_of_shortest ht hshortest r
  · obtain ⟨pieces, hs, hreplace, -⟩ := Value.exists_replace_pieces s t
    rw [hreplace, ← hs]

/-- The new text and what is behind it make up another occurrence, which stays. Another character
in the place of the one that is looked for changes nothing. -/
theorem a_new_occurrence_stays :
    "aa" ≠ "" ∧ Value.contains (.string "baaab") (.string "aa") = .ok (.boolean true) ∧
      Value.replace (.string "baaab") (.string "aa") (.string "ba") = .ok (.string "bbaab") ∧
      Function.Injective (Equiv.swap 'a' '$') ∧
      ∃ pieces : List String, ∀ r,
        Value.replace (.string "baaab") (.string "aa") (.string r) =
          .ok (.string (r.intercalate pieces)) ∧
        Value.replace (.string "b$$$b") (.string "$$") (.string r) =
          .ok (.string (r.intercalate (pieces.map (·.map (Equiv.swap 'a' '$'))))) := by
  obtain ⟨hleft, -, -, hpieces⟩ := replacing_goes_from_left_to_right
  have hshortest : ∀ u' v' : String, "baaab" = u' ++ "aa" ++ v' → "b".length ≤ u'.length := by
    intro u' v' h
    by_contra hlt
    have hnil : u' = "" := by
      rw [← String.length_eq_zero_iff]
      exact Nat.lt_one_iff.mp (not_le.mp hlt)
    have hlist := congrArg String.toList h
    simp [hnil] at hlist
  obtain ⟨w, hw, hs⟩ := (hleft "baaab" "aa" "ba" (by decide)).2.2 "b" "ab" rfl hshortest
  have hab : Value.replace (.string "ab") (.string "aa") (.string "ba") = .ok (.string "ab") := rfl
  obtain rfl : "ab" = w := Value.string.inj (Except.ok.inj (hab.symm.trans hw))
  obtain ⟨pieces, -, hreplace, hrename⟩ := hpieces "baaab" "aa"
  have hinjective := (Equiv.swap 'a' '$').injective
  have hsource : "baaab".map (Equiv.swap 'a' '$') = "b$$$b" := by
    rw [← String.toList_inj, String.toList_map]
    decide
  have htarget : "aa".map (Equiv.swap 'a' '$') = "$$" := by
    rw [← String.toList_inj, String.toList_map]
    decide
  refine ⟨by decide, rfl, hs, hinjective, pieces, fun r => ⟨hreplace r, ?_⟩⟩
  rw [← hsource, ← htarget]
  exact hrename _ hinjective r

end Predefined
