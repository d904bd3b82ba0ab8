-- The text of a double reads back as the double. A finite one is written as digits with a point
-- among them, and the decimal that they stand for rounds to its magnitude: a whole number is
-- written exactly, and the shortest digits were chosen for reading back. The search for them may
-- even fail, as the exact digits would be taken then.
import Predefined.Double.Text
import Predefined.Proofs.Digits
import Predefined.Proofs.Rounding

namespace Predefined

namespace Double

/-! ## Shortest digits -/

theorem decimalCode_of_readsBack {code : Nat} {d : Scientific} (h : readsBack code d = true) :
    decimalCode d.digits d.exponent = code := by
  rw [readsBack, ofDecimal_eq, ofCode] at h
  split at h
  · rename_i heq
    split at heq
    · cases heq
      exact of_decide_eq_true h
    · cases heq
  · cases h

theorem nearer_eq (tie : Tie) (num den : Nat) (below above : Scientific) :
    nearer tie num den below above = below ∨ nearer tie num den below above = above := by
  simp only [nearer]
  split
  · exact Or.inl rfl
  · split
    · exact Or.inr rfl
    · cases tie with
      | upward => exact Or.inr rfl
      | toEven => exact ite_eq_or_eq _ _ _

/-- Whichever neighbour is taken reads back. -/
theorem decimalCode_of_onGrid {tie : Tie} {code : Nat} {exponent : Int} {d : Scientific}
    (h : onGrid tie code exponent = some d) : decimalCode d.digits d.exponent = code := by
  refine decimalCode_of_readsBack ?_
  simp only [onGrid] at h
  split at h
  · rename_i hbelow
    obtain rfl := Option.some.inj h
    split
    · rename_i habove
      rcases nearer_eq tie (units code * Nat.pow 10 (-exponent).toNat)
        (one * Nat.pow 10 exponent.toNat) _ _ with heq | heq
      · rw [heq]
        exact hbelow
      · rw [heq]
        exact habove
    · exact hbelow
  · split at h
    · rename_i habove
      obtain rfl := Option.some.inj h
      exact habove
    · cases h

/-- All places of a magnitude give its exact value. -/
theorem decimalCode_exact {code k : Nat} (hk : one = Nat.pow 2 k) :
    decimalCode (units code * Nat.pow 5 k) (-k) = code := by
  have hneg : (-(-k : Int)).toNat = k := by omega
  have hpos : (-k : Int).toNat = 0 := by omega
  have hten : Nat.pow 10 k = Nat.pow 5 k * one := by
    rw [hk]
    exact Nat.mul_pow 5 2 k
  have hratio : units code * Nat.pow 5 k * Nat.pow 10 0 * one = units code * Nat.pow 10 k := by
    rw [hten, show Nat.pow 10 0 = 1 from rfl]
    ring
  rw [decimalCode, hneg, hpos]
  exact (nearest_congr (pow_pos (by decide) k) one_pos hratio).trans (nearest_units code)

theorem decimalCode_firstOnGrid (tie : Tie) (code : Nat) :
    decimalCode (firstOnGrid tie code).digits (firstOnGrid tie code).exponent = code := by
  simp only [firstOnGrid]
  rcases hgrids : (List.map _ (List.range 17)).findSome? (onGrid tie code) with _ | d
  · obtain ⟨k, hk, hone⟩ : ∃ k, 1074 = k ∧ one = Nat.pow 2 k := ⟨1074, rfl, one_eq⟩
    have hexponent : (-1074 : Int) = -k := by omega
    rw [Option.getD_none, hexponent, hk]
    exact decimalCode_exact hone
  · obtain ⟨exponent, -, hgrid⟩ := List.exists_of_findSome?_eq_some hgrids
    exact decimalCode_of_onGrid hgrid

theorem stripZeros_eq (n : Nat) :
    n = (Decimal.stripZeros n).1 * Nat.pow 10 (Decimal.stripZeros n).2 := by
  fun_induction Decimal.stripZeros n with
  | case1 n h m k hstrip ih =>
    rw [hstrip] at ih
    have hn : n = n / 10 * 10 := by omega
    calc n = n / 10 * 10 := hn
      _ = m * Nat.pow 10 k * 10 := by rw [ih]
      _ = m * Nat.pow 10 (k + 1) := Nat.mul_assoc _ _ _
  | case2 n h => exact (Nat.mul_one n).symm

theorem decimalCode_stripped (d : Scientific) :
    decimalCode d.stripped.digits d.stripped.exponent = decimalCode d.digits d.exponent := by
  simp only [Scientific.stripped]
  rw [← decimalCode_mul_pow, ← stripZeros_eq]

/-- The shortest digits of a magnitude stand for a decimal that is rounded to it. -/
theorem decimalCode_shortest (tie : Tie) (code : Nat) :
    decimalCode (shortest tie code).digits (shortest tie code).exponent = code :=
  (decimalCode_stripped _).trans (decimalCode_firstOnGrid tie code)

/-- A magnitude that is not whole has places behind the point. -/
theorem exponent_shortest_le {tie : Tie} {code : Nat} (h : units code % one ≠ 0) :
    (shortest tie code).exponent ≤ 0 := by
  by_contra hpos
  have hexponent : (-(shortest tie code).exponent).toNat = 0 := by omega
  have hcode := decimalCode_shortest tie code
  rw [decimalCode, hexponent] at hcode
  have hwhole := units_nearest_mod_one
    ((shortest tie code).digits * Nat.pow 10 (shortest tie code).exponent.toNat)
  exact h (hcode ▸ hwhole)

/-! ## Digits with a point -/

theorem stopsDigits_point (s : List Char) : Decimal.StopsDigits ('.' :: s) := by
  intro c hc
  cases hc
  decide

/-- A text is digits with a point among them, and they stand for a decimal. -/
def IsPointed (s : List Char) (d : Scientific) : Prop :=
  ∃ whole fraction : List Digit, whole ≠ [] ∧
    s = Decimal.chars whole ++ '.' :: Decimal.chars fraction ∧
    Decimal.value (whole ++ fraction) = d.digits ∧ -(fraction.length : Int) = d.exponent

/-- Digits with a point among them are read as the decimal that they stand for. -/
theorem IsPointed.readMagnitude {s : List Char} {d : Scientific} (h : IsPointed s d)
    (negative : Bool) :
    readMagnitude negative s = some (ofCode negative (decimalCode d.digits d.exponent)) := by
  obtain ⟨whole, fraction, hwhole, rfl, hvalue, hlength⟩ := h
  have hempty : whole.isEmpty = false := by simpa using hwhole
  simp only [Double.readMagnitude, Decimal.scan_chars_append whole (stopsDigits_point _),
    Decimal.scan_chars, hempty, Bool.false_and, readExponent, Option.map_some, Int.zero_sub,
    hvalue, hlength, ofDecimal_eq]
  rfl

theorem isPointed_placePoint {d : Scientific} (h : d.exponent ≤ 0) :
    IsPointed (placePoint (Decimal.digits d.digits) d.exponent) d := by
  simp only [placePoint]
  split
  · refine ⟨_, _, ?_, rfl, ?_, ?_⟩
    · refine List.ne_nil_of_length_pos ?_
      rw [List.length_take]
      omega
    · rw [List.take_append_drop, Decimal.value_digits]
    · simp only [List.length_drop]
      omega
  · -- The zeros in front of the digits are digits as well.
    let zeros := List.replicate ((-d.exponent).toNat - (Decimal.digits d.digits).length) Digit.zero
    refine ⟨[Digit.zero], zeros ++ Decimal.digits d.digits, List.cons_ne_nil _ _, ?_, ?_, ?_⟩
    · have hzero : Digit.zero.char = '0' := rfl
      simp [Decimal.chars, zeros, hzero]
    · rw [← List.append_assoc, List.singleton_append, ← List.replicate_succ, Decimal.value_append,
        Decimal.value_replicate_zero, Decimal.value_digits, Nat.zero_mul, Nat.zero_add]
    · simp only [zeros, List.length_append, List.length_replicate]
      omega

theorem isPointed_whole (n : Nat) : IsPointed (Decimal.natChars n ++ ['.', '0']) ⟨10 * n, -1⟩ := by
  refine ⟨Decimal.digits n, [Digit.zero], Decimal.digits_ne_nil n, rfl, ?_, rfl⟩
  have hzero : Decimal.value [Digit.zero] = 0 := rfl
  rw [Decimal.value_append, Decimal.value_digits, hzero]
  exact Nat.mul_comm _ _

/-- A magnitude is written as digits with a point that are rounded to it. -/
theorem exists_isPointed (code : Nat) :
    ∃ d, IsPointed (magnitudeChars code) d ∧ decimalCode d.digits d.exponent = code := by
  by_cases hwhole : units code % one = 0
  · let n := units code / one
    have hunits : n * one = units code := Nat.div_mul_cancel (Nat.dvd_of_mod_eq_zero hwhole)
    have hratio : n * Nat.pow 10 0 * one = units code * Nat.pow 10 0 := by
      rw [Nat.mul_right_comm, hunits]
    refine ⟨⟨10 * n, -1⟩, ?_, ?_⟩
    · rw [magnitudeChars, if_pos hwhole]
      exact isPointed_whole n
    · have hzeros : 10 * n = n * Nat.pow 10 1 := Nat.mul_comm 10 n
      rw [hzeros, decimalCode_mul_pow]
      exact (nearest_congr Nat.one_pos one_pos hratio).trans (nearest_units code)
  · refine ⟨shortest .upward code, ?_, decimalCode_shortest _ _⟩
    rw [magnitudeChars, if_neg hwhole]
    exact isPointed_placePoint (exponent_shortest_le hwhole)

/-! ## Reading a text back -/

theorem IsPointed.exists_cons {s : List Char} {d : Scientific} (h : IsPointed s d) :
    ∃ (c : Digit) (rest : List Char), s = c.char :: rest := by
  obtain ⟨whole, fraction, hwhole, rfl, -⟩ := h
  obtain ⟨c, ds, rfl⟩ := List.exists_cons_of_ne_nil hwhole
  exact ⟨c, _, rfl⟩

/-- What starts with a digit is no name, and has no sign before the one that was written. -/
theorem readChars_signChars (negative : Bool) (c : Digit) (rest : List Char) :
    readChars (signChars negative ++ c.char :: rest) = readMagnitude negative (c.char :: rest) := by
  have hlower : c.char.toLower = c.char := by
    revert c
    decide
  have hname : ∀ (d : Char) (name : List Char), Digit.ofChar? d = none →
      String.ofList (asciiLower (c.char :: rest)) ≠ String.ofList (d :: name) := by
    intro d name hd heq
    have hhead := (List.cons.inj (String.ofList_inj.1 heq)).1
    exact Digit.char_ne hd c (hlower ▸ hhead)
  have hnan := hname 'n' ['a', 'n'] (by decide)
  have hinf := hname 'i' ['n', 'f'] (by decide)
  have hinfinity := hname 'i' ['n', 'f', 'i', 'n', 'i', 't', 'y'] (by decide)
  have hminus := Digit.char_ne (by decide : Digit.ofChar? '-' = none) c
  have hplus := Digit.char_ne (by decide : Digit.ofChar? '+' = none) c
  cases negative with
  | true =>
    show readChars ('-' :: c.char :: rest) = _
    simp only [readChars]
    rw [if_neg hnan, if_neg (not_or_intro hinf hinfinity)]
  | false =>
    show readChars (c.char :: rest) = _
    simp only [readChars]
    split
    · rename_i heq
      exact absurd (List.cons.inj heq).1 hminus
    · rename_i heq
      exact absurd (List.cons.inj heq).1 hplus
    · rw [if_neg hnan, if_neg (not_or_intro hinf hinfinity)]

/-- The text of a double is read as the same double. -/
theorem readChars_chars (d : Double) : readChars d.chars = some d := by
  cases d with
  | nan => rfl
  | infinite negative => cases negative <;> rfl
  | finite negative code hcode =>
    obtain ⟨d, hpointed, hdecimal⟩ := exists_isPointed code
    obtain ⟨c, rest, hcons⟩ := hpointed.exists_cons
    rw [chars, hcons, readChars_signChars, ← hcons, hpointed.readMagnitude, hdecimal, ofCode,
      dif_pos hcode]

/-- The characters of the text of a double. -/
theorem mem_chars {d : Double} {c : Char} (h : c ∈ d.chars) :
    c ∈ ['.', '-', 'N', 'a', 'I', 'n', 'f', 'i', 't', 'y'] ∨ ∃ digit : Digit, c = digit.char := by
  have hsign : ∀ negative, c ∈ signChars negative → c = '-' := by
    rintro (_ | _) hc
    · simp [signChars] at hc
    · simpa [signChars] using hc
  cases d with
  | nan =>
    have hsubset : "NaN".toList ⊆ ['.', '-', 'N', 'a', 'I', 'n', 'f', 'i', 't', 'y'] := by decide
    exact Or.inl (hsubset h)
  | infinite negative =>
    have hsubset : "Infinity".toList ⊆ ['.', '-', 'N', 'a', 'I', 'n', 'f', 'i', 't', 'y'] := by
      decide
    rcases List.mem_append.1 h with hc | hc
    · simp [hsign negative hc]
    · exact Or.inl (hsubset hc)
  | finite negative code =>
    obtain ⟨d, ⟨whole, fraction, -, heq, -⟩, -⟩ := exists_isPointed code
    rw [chars, heq] at h
    have hdigits : ∀ ds, c ∈ Decimal.chars ds → ∃ digit : Digit, c = digit.char := by
      intro ds hc
      obtain ⟨digit, -, rfl⟩ := List.mem_map.1 hc
      exact ⟨digit, rfl⟩
    rcases List.mem_append.1 h with hc | hc
    · simp [hsign negative hc]
    · rcases List.mem_append.1 hc with hc | hc
      · exact Or.inr (hdigits _ hc)
      · rcases List.mem_cons.1 hc with rfl | hc
        · simp
        · exact Or.inr (hdigits _ hc)

end Double

end Predefined
