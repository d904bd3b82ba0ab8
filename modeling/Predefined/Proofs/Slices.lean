-- Parts of a text by positions. The positions are signed integers of 64 bits, and the checks in
-- front of a part keep all further arithmetic on them exact. So parts recombine as the positions
-- add up, and the questions whether a text stands in another one are questions about its parts.
import Predefined.Proofs.Occurrences
import Predefined.Value.Text

namespace Predefined

/-! ## Slices -/

/-- The characters of a text from `start` up to, and without, `stop`. -/
def slice (s : String) (start stop : Nat) : String :=
  String.ofList ((s.toList.drop start).take (stop - start))

section

variable {s t : String} {a b c d : Nat}

theorem toList_slice : (slice s a b).toList = (s.toList.drop a).take (b - a) :=
  String.toList_ofList

theorem length_slice (h : b ≤ s.length) : (slice s a b).length = b - a := by
  rw [← String.length_toList, toList_slice, List.length_take, List.length_drop,
    String.length_toList]
  omega

theorem slice_all : slice s 0 s.length = s := by
  apply String.toList_inj.mp
  rw [toList_slice, List.drop_zero, Nat.sub_zero, ← String.length_toList, List.take_length]

theorem slice_append_slice (hab : a ≤ b) (hbc : b ≤ c) :
    slice s a b ++ slice s b c = slice s a c := by
  apply String.toList_inj.mp
  rw [String.toList_append, toList_slice, toList_slice, toList_slice,
    show c - a = (b - a) + (c - b) by omega, List.take_add, List.drop_drop,
    show a + (b - a) = b by omega]

/-- A slice of a slice. -/
theorem slice_slice (h : d ≤ b - a) : slice (slice s a b) c d = slice s (a + c) (a + d) := by
  apply String.toList_inj.mp
  rw [toList_slice, toList_slice, toList_slice, List.drop_take, List.drop_drop, List.take_take,
    show min (d - c) (b - a - c) = a + d - (a + c) by omega]

theorem slice_append (u v : String) : slice (u ++ t ++ v) u.length (u.length + t.length) = t := by
  apply String.toList_inj.mp
  rw [toList_slice, String.toList_append, String.toList_append, List.append_assoc,
    ← String.length_toList, List.drop_left, Nat.add_sub_cancel_left, ← String.length_toList,
    List.take_left]

/-- A slice stands between two others. -/
theorem slices_append (hab : a ≤ b) (hb : b ≤ s.length) :
    slice s 0 a ++ slice s a b ++ slice s b s.length = s := by
  rw [slice_append_slice (Nat.zero_le a) hab, slice_append_slice (Nat.zero_le b) hb, slice_all]

end

/-! ## Positions of 64 bits -/

section

variable {i j : Int64}

theorem zero_le_iff : 0 ≤ i ↔ 0 ≤ i.toInt :=
  Int64.le_iff_toInt_le

theorem toNat_toUInt64 (h : 0 ≤ i) : i.toUInt64.toNat = i.toInt.toNat :=
  Int64.toNat_toUInt64_of_le h

/-- The difference of two positions is exact, also when it is negative. -/
theorem toInt_sub (hi : 0 ≤ i.toInt) (hj : 0 ≤ j.toInt) : (j - i).toInt = j.toInt - i.toInt := by
  have hi' := i.toInt_lt
  have hj' := j.toInt_lt
  rw [Int64.toInt_sub, Int.bmod_eq_of_le] <;> omega

/-- The sum of two positions is exact as long as it is a position itself. -/
theorem toInt_add (hi : 0 ≤ i.toInt) (hj : 0 ≤ j.toInt)
    (h : i.toInt + j.toInt < 0x8000000000000000) : (i + j).toInt = i.toInt + j.toInt := by
  rw [Int64.toInt_add, Int.bmod_eq_of_le] <;> omega

theorem ofNat_toInt {n : Nat} (h : i.toInt = n) : Int64.ofNat n = i := by
  apply Int64.toInt_inj.mp
  rw [Int64.toInt_ofNat_of_lt, h]
  have := i.toInt_lt
  omega

end

/-! ## Substrings -/

namespace Value

theorem substringFrom_eq (s : String) (a : Int64) :
    substringFrom (string s) (integer a) =
      if 0 ≤ a.toInt ∧ a.toInt ≤ s.length then .ok (string (slice s a.toInt.toNat s.length))
      else .error (.invalidIndex a s.length) := by
  unfold substringFrom
  dsimp only
  by_cases ha : 0 ≤ a
  · have ha' := zero_le_iff.mp ha
    have htail : (s.toList.drop a.toInt.toNat).take (s.length - a.toInt.toNat) =
        s.toList.drop a.toInt.toNat :=
      List.take_of_length_le (by rw [List.length_drop, String.length_toList])
    rw [toNat_toUInt64 ha, slice, htail]
    simp only [ha, ha', true_and, Int.toNat_le]
  · have ha' := mt zero_le_iff.mpr ha
    simp only [ha, ha', false_and, if_false]

theorem substringRange_eq (s : String) (a b : Int64) :
    substringRange (string s) (integer a) (integer b) =
      if 0 ≤ a.toInt ∧ a.toInt ≤ b.toInt ∧ b.toInt ≤ s.length then
        .ok (string (slice s a.toInt.toNat b.toInt.toNat))
      else .error (.invalidRange a b s.length) := by
  unfold substringRange
  dsimp only
  -- unsigned positions and their difference mean something only under these conditions
  by_cases h : 0 ≤ a ∧ 0 ≤ b ∧ a ≤ b
  · obtain ⟨ha, hb, hab⟩ := h
    have ha' := zero_le_iff.mp ha
    have hb' := zero_le_iff.mp hb
    have hab' := Int64.le_iff_toInt_le.mp hab
    have hsub := toInt_sub ha' hb'
    have hdiff : 0 ≤ b - a := zero_le_iff.mpr (by omega)
    rw [toNat_toUInt64 ha, toNat_toUInt64 hb, toNat_toUInt64 hdiff, hsub, slice,
      show (b.toInt - a.toInt).toNat = b.toInt.toNat - a.toInt.toNat by omega]
    simp only [ha, hb, hab, ha', hab', true_and, Int.toNat_le]
  · have hguard : ¬(0 ≤ b ∧ 0 ≤ a ∧ a ≤ b ∧ b.toUInt64.toNat ≤ s.length) := fun hg =>
      h ⟨hg.2.1, hg.1, hg.2.2.1⟩
    have hbounds : ¬(0 ≤ a.toInt ∧ a.toInt ≤ b.toInt ∧ b.toInt ≤ s.length) := fun hg =>
      h ⟨zero_le_iff.mpr hg.1, zero_le_iff.mpr (by omega), Int64.le_iff_toInt_le.mpr hg.2.1⟩
    rw [if_neg hguard, if_neg hbounds]

theorem length_eq (s : String) {n : Int64} (h : n.toInt = s.length) :
    length (string s) = .ok (integer n) := by
  unfold length
  dsimp only
  rw [ofNat_toInt h]

section

variable {s t : String} {a b : Int64}

theorem substringFrom_of_le (ha : 0 ≤ a.toInt) (hs : a.toInt ≤ s.length) :
    substringFrom (string s) (integer a) = .ok (string (slice s a.toInt.toNat s.length)) := by
  rw [substringFrom_eq, if_pos ⟨ha, hs⟩]

theorem substringRange_of_le (ha : 0 ≤ a.toInt) (hab : a.toInt ≤ b.toInt)
    (hs : b.toInt ≤ s.length) :
    substringRange (string s) (integer a) (integer b) =
      .ok (string (slice s a.toInt.toNat b.toInt.toNat)) := by
  rw [substringRange_eq, if_pos ⟨ha, hab, hs⟩]

theorem substringFrom_eq_ok_iff :
    substringFrom (string s) (integer a) = .ok (string t) ↔
      (0 ≤ a.toInt ∧ a.toInt ≤ s.length) ∧ slice s a.toInt.toNat s.length = t := by
  rw [substringFrom_eq]
  split <;> simp [*]

theorem substringRange_eq_ok_iff :
    substringRange (string s) (integer a) (integer b) = .ok (string t) ↔
      (0 ≤ a.toInt ∧ a.toInt ≤ b.toInt ∧ b.toInt ≤ s.length) ∧
        slice s a.toInt.toNat b.toInt.toNat = t := by
  rw [substringRange_eq]
  split <;> simp [*]

/-- The parts before, between and behind two positions make up the text. -/
theorem exists_parts (ha : 0 ≤ a.toInt) (hab : a.toInt ≤ b.toInt) (hb : b.toInt ≤ s.length) :
    ∃ u v w,
      substringRange (string s) (integer 0) (integer a) = .ok (string u) ∧
      substringRange (string s) (integer a) (integer b) = .ok (string v) ∧
      substringFrom (string s) (integer b) = .ok (string w) ∧
      u ++ v ++ w = s ∧
      length (string v) = .ok (integer (b - a)) ∧
      (b - a).toInt = b.toInt - a.toInt := by
  have hzero : (0 : Int64).toInt = 0 := rfl
  have hpos : 0 ≤ b.toInt := by omega
  have hsub := toInt_sub ha hpos
  refine ⟨_, _, _, substringRange_of_le (by omega) (by omega) (by omega),
    substringRange_of_le ha hab hb, substringFrom_of_le hpos hb, ?_, ?_, hsub⟩
  · exact slices_append (by omega) (by omega)
  · apply length_eq
    rw [hsub, length_slice (by omega)]
    omega

/-- A part of a part is a part of the text. -/
theorem exists_part_of_part {c d : Int64} (ha : 0 ≤ a.toInt) (hab : a.toInt ≤ b.toInt)
    (hb : b.toInt ≤ s.length) (hc : 0 ≤ c.toInt) (hcd : c.toInt ≤ d.toInt)
    (hd : d.toInt ≤ b.toInt - a.toInt) :
    ∃ v t,
      substringRange (string s) (integer a) (integer b) = .ok (string v) ∧
      substringRange (string v) (integer c) (integer d) = .ok (string t) ∧
      substringRange (string s) (integer (a + c)) (integer (a + d)) = .ok (string t) ∧
      (a + c).toInt = a.toInt + c.toInt ∧ (a + d).toInt = a.toInt + d.toInt := by
  have hmax := b.toInt_lt
  have hpos : 0 ≤ d.toInt := by omega
  have hac := toInt_add ha hc (by omega)
  have had := toInt_add ha hpos (by omega)
  have hlength : (slice s a.toInt.toNat b.toInt.toNat).length = b.toInt.toNat - a.toInt.toNat :=
    length_slice (by omega)
  refine ⟨_, _, substringRange_of_le ha hab hb, substringRange_of_le hc hcd (by omega), ?_, hac,
    had⟩
  rw [substringRange_of_le (by omega) (by omega) (by omega), slice_slice (by omega), hac, had,
    Int.toNat_add ha hc, Int.toNat_add ha hpos]

end

end Value

/-- Substrings are slices by characters. They fail on positions outside of the text, they put
together to the text, and a substring of a substring is one of the text. -/
theorem substrings_are_slices_by_characters :
    (∀ (s : String) (a : Int64),
      ((∃ t, Value.substringFrom (.string s) (.integer a) = .ok (.string t)) ↔
        0 ≤ a.toInt ∧ a.toInt ≤ s.length) ∧
      (¬(0 ≤ a.toInt ∧ a.toInt ≤ s.length) →
        Value.substringFrom (.string s) (.integer a) = .error (.invalidIndex a s.length))) ∧
    (∀ (s : String) (a b : Int64),
      ((∃ t, Value.substringRange (.string s) (.integer a) (.integer b) = .ok (.string t)) ↔
        0 ≤ a.toInt ∧ a.toInt ≤ b.toInt ∧ b.toInt ≤ s.length) ∧
      (¬(0 ≤ a.toInt ∧ a.toInt ≤ b.toInt ∧ b.toInt ≤ s.length) →
        Value.substringRange (.string s) (.integer a) (.integer b) =
          .error (.invalidRange a b s.length))) ∧
    (∀ (s : String) (a b : Int64), 0 ≤ a.toInt → a.toInt ≤ b.toInt → b.toInt ≤ s.length →
      ∃ u v w,
        Value.substringRange (.string s) (.integer 0) (.integer a) = .ok (.string u) ∧
        Value.substringRange (.string s) (.integer a) (.integer b) = .ok (.string v) ∧
        Value.substringFrom (.string s) (.integer b) = .ok (.string w) ∧
        u ++ v ++ w = s ∧
        Value.length (.string v) = .ok (.integer (b - a)) ∧
        (b - a).toInt = b.toInt - a.toInt) ∧
    (∀ (s : String) (a n : Int64), n.toInt = s.length → 0 ≤ a.toInt → a.toInt ≤ s.length →
      Value.length (.string s) = .ok (.integer n) ∧
        Value.substringFrom (.string s) (.integer a) =
          Value.substringRange (.string s) (.integer a) (.integer n)) ∧
    ∀ (s : String) (a b c d : Int64), 0 ≤ a.toInt → a.toInt ≤ b.toInt → b.toInt ≤ s.length →
      0 ≤ c.toInt → c.toInt ≤ d.toInt → d.toInt ≤ b.toInt - a.toInt →
      ∃ v t,
        Value.substringRange (.string s) (.integer a) (.integer b) = .ok (.string v) ∧
        Value.substringRange (.string v) (.integer c) (.integer d) = .ok (.string t) ∧
        Value.substringRange (.string s) (.integer (a + c)) (.integer (a + d)) = .ok (.string t) ∧
        (a + c).toInt = a.toInt + c.toInt ∧ (a + d).toInt = a.toInt + d.toInt := by
  refine ⟨fun s a => ⟨?_, fun ha => ?_⟩, fun s a b => ⟨?_, fun hab => ?_⟩,
    fun s a b => Value.exists_parts, fun s a n hn ha hs => ⟨Value.length_eq s hn, ?_⟩,
    fun s a b c d => Value.exists_part_of_part⟩
  · simp only [Value.substringFrom_eq_ok_iff, exists_and_left, exists_eq', and_true]
  · rw [Value.substringFrom_eq, if_neg ha]
  · simp only [Value.substringRange_eq_ok_iff, exists_and_left, exists_eq', and_true]
  · rw [Value.substringRange_eq, if_neg hab]
  · rw [Value.substringFrom_of_le ha hs, Value.substringRange_of_le ha (by omega) (by omega), hn,
      Int.toNat_natCast]

/-- The end of the part lies between characters of several bytes. -/
theorem a_part_of_a_part_of_a_text_is_a_part :
    ∃ v t,
      Value.substringRange (.string "aßcd€f") (.integer 1) (.integer 5) = .ok (.string v) ∧
      Value.substringRange (.string v) (.integer 2) (.integer 4) = .ok (.string t) ∧
      Value.substringRange (.string "aßcd€f") (.integer (1 + 2)) (.integer (1 + 4)) =
        .ok (.string t) ∧
      (1 + 2 : Int64).toInt = (1 : Int64).toInt + (2 : Int64).toInt ∧
      (1 + 4 : Int64).toInt = (1 : Int64).toInt + (4 : Int64).toInt :=
  substrings_are_slices_by_characters.2.2.2.2 "aßcd€f" 1 5 2 4 (by decide) (by decide)
    (by decide) (by decide) (by decide) (by decide)

/-! ## Searching -/

namespace Value

theorem contains_eq (s f : String) :
    contains (string s) (string f) = .ok (boolean (Text.contains f.toList s.toList)) :=
  rfl

theorem startsWith_eq (s f : String) :
    startsWith (string s) (string f) = .ok (boolean (f.toList.isPrefixOf s.toList)) :=
  rfl

theorem endsWith_eq (s f : String) :
    endsWith (string s) (string f) = .ok (boolean (f.toList.isSuffixOf s.toList)) :=
  rfl

end Value

section

variable {s f : String} {n m : Int64}

theorem infix_iff : f.toList <:+: s.toList ↔ ∃ u v, s = u ++ f ++ v := by
  constructor
  · rintro ⟨u, v, h⟩
    refine ⟨String.ofList u, String.ofList v, ?_⟩
    apply String.toList_inj.mp
    rw [String.toList_append, String.toList_append, String.toList_ofList, String.toList_ofList, h]
  · rintro ⟨u, v, rfl⟩
    rw [String.toList_append, String.toList_append]
    exact ⟨u.toList, v.toList, rfl⟩

theorem prefix_iff_slice : f.toList <+: s.toList ↔ f.length ≤ s.length ∧ slice s 0 f.length = f := by
  rw [← String.toList_inj, toList_slice, List.drop_zero, Nat.sub_zero, ← String.length_toList,
    ← String.length_toList, eq_comm, ← List.prefix_iff_eq_take]
  exact ⟨fun h => ⟨h.length_le, h⟩, fun h => h.2⟩

theorem suffix_iff_slice :
    f.toList <:+ s.toList ↔ f.length ≤ s.length ∧ slice s (s.length - f.length) s.length = f := by
  have hall : (s.toList.drop (s.length - f.length)).take (s.length - (s.length - f.length)) =
      s.toList.drop (s.length - f.length) :=
    List.take_of_length_le (by rw [List.length_drop, String.length_toList])
  rw [← String.toList_inj, toList_slice, hall, ← String.length_toList, ← String.length_toList,
    eq_comm, ← List.suffix_iff_eq_drop]
  exact ⟨fun h => ⟨h.length_le, h⟩, fun h => h.2⟩

/-- An occurrence is shown by where it begins. -/
theorem contains_iff_substring (hs : n.toInt = s.length) (hf : m.toInt = f.length) :
    f.toList <:+: s.toList ↔
      ∃ i : Int64,
        Value.substringRange (.string s) (.integer i) (.integer (i + m)) = .ok (.string f) := by
  simp only [Value.substringRange_eq_ok_iff]
  constructor
  · rw [infix_iff]
    rintro ⟨u, v, rfl⟩
    have hmax := n.toInt_lt
    simp only [String.length_append] at hs
    have hu : (Int64.ofNat u.length).toInt = u.length := Int64.toInt_ofNat_of_lt (by omega)
    have hsum : (Int64.ofNat u.length + m).toInt = (u.length + f.length : Nat) := by
      rw [toInt_add (by omega) (by omega) (by omega), hu, hf]
      rfl
    refine ⟨Int64.ofNat u.length, ?_, ?_⟩
    · simp only [String.length_append]
      omega
    · rw [hu, hsum]
      exact slice_append u v
  · rintro ⟨i, -, hslice⟩
    rw [← hslice, toList_slice]
    exact (List.take_prefix _ _).isInfix.trans (List.drop_suffix _ _).isInfix

theorem startsWith_iff_substring (hf : m.toInt = f.length) :
    f.toList <+: s.toList ↔
      Value.substringRange (.string s) (.integer 0) (.integer m) = .ok (.string f) := by
  have hzero : (0 : Int64).toInt = 0 := rfl
  rw [Value.substringRange_eq_ok_iff, hzero, hf, prefix_iff_slice]
  apply and_congr_left'
  omega

/-- Where the part is longer than the text its place is negative. -/
theorem endsWith_iff_substring (hs : n.toInt = s.length) (hf : m.toInt = f.length) :
    f.toList <:+ s.toList ↔
      Value.substringFrom (.string s) (.integer (n - m)) = .ok (.string f) := by
  have hsub : (n - m).toInt = s.length - f.length := by
    rw [toInt_sub (by omega) (by omega), hs, hf]
  rw [Value.substringFrom_eq_ok_iff, suffix_iff_slice, hsub,
    show ((s.length : Int) - f.length).toNat = s.length - f.length by omega]
  apply and_congr_left'
  omega

end

/-- The questions whether a text stands in another one, at its start or at its end, are questions
about substrings. -/
theorem searches_agree_with_substrings :
    (∀ (s f : String) (n m : Int64), n.toInt = s.length → m.toInt = f.length →
      Value.length (.string s) = .ok (.integer n) ∧ Value.length (.string f) = .ok (.integer m) ∧
      (∃ b, Value.contains (.string s) (.string f) = .ok (.boolean b) ∧
        (b = true ↔ ∃ i : Int64,
          Value.substringRange (.string s) (.integer i) (.integer (i + m)) = .ok (.string f))) ∧
      (∃ b, Value.startsWith (.string s) (.string f) = .ok (.boolean b) ∧
        (b = true ↔
          Value.substringRange (.string s) (.integer 0) (.integer m) = .ok (.string f))) ∧
      ∃ b, Value.endsWith (.string s) (.string f) = .ok (.boolean b) ∧
        (b = true ↔ Value.substringFrom (.string s) (.integer (n - m)) = .ok (.string f))) ∧
    (∀ s f : String, ∃ b, Value.contains (.string s) (.string f) = .ok (.boolean b) ∧
      (b = true ↔ ∃ u v, s = u ++ f ++ v)) ∧
    ∀ s : String,
      Value.contains (.string s) (.string "") = .ok (.boolean true) ∧
      Value.startsWith (.string s) (.string "") = .ok (.boolean true) ∧
      Value.endsWith (.string s) (.string "") = .ok (.boolean true) := by
  refine ⟨fun s f n m hs hf => ⟨Value.length_eq s hs, Value.length_eq f hf,
    ⟨_, Value.contains_eq s f, ?_⟩, ⟨_, Value.startsWith_eq s f, ?_⟩,
    ⟨_, Value.endsWith_eq s f, ?_⟩⟩, fun s f => ⟨_, Value.contains_eq s f, ?_⟩, fun s => ⟨?_, ?_, ?_⟩⟩
  · rw [Text.contains_iff, contains_iff_substring hs hf]
  · rw [List.isPrefixOf_iff_prefix, startsWith_iff_substring hf]
  · rw [List.isSuffixOf_iff_suffix, endsWith_iff_substring hs hf]
  · rw [Text.contains_iff, infix_iff]
  · rw [Value.contains_eq, String.toList_empty, Text.contains_iff.mpr List.nil_infix]
  · rw [Value.startsWith_eq, String.toList_empty, List.isPrefixOf_iff_prefix.mpr List.nil_prefix]
  · rw [Value.endsWith_eq, String.toList_empty, List.isSuffixOf_iff_suffix.mpr List.nil_suffix]

/-- The text ends in a part of what is asked for, and what is asked for would begin before it. -/
theorem a_text_does_not_end_in_a_longer_one :
    (5 : Int64).toInt = "€uro€".length ∧ (6 : Int64).toInt = "a€uro€".length ∧
      Value.endsWith (.string "€uro€") (.string "a€uro€") = .ok (.boolean false) ∧
      Value.substringFrom (.string "€uro€") (.integer (5 - 6)) ≠ .ok (.string "a€uro€") := by
  obtain ⟨-, -, -, -, b, hb, hiff⟩ :=
    searches_agree_with_substrings.1 "€uro€" "a€uro€" 5 6 (by decide) (by decide)
  have hfalse : Value.endsWith (.string "€uro€") (.string "a€uro€") = .ok (.boolean false) := rfl
  obtain rfl : b = false := Value.boolean.inj (Except.ok.inj (hb.symm.trans hfalse))
  exact ⟨by decide, by decide, hfalse, fun h => Bool.false_ne_true (hiff.mpr h)⟩

end Predefined
