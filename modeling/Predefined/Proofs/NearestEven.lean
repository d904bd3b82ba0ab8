-- Integers as doubles. There are two ways to turn one into the other: the text of the integer is
-- read as a double, or the integer is rounded at once. Both round the same ratio. What they give is
-- nearest among all doubles: its mantissa is the nearest whole number at its last place, and no
-- magnitude of smaller places comes closer, as the least full mantissa lies between such a one and
-- the integer.
import Mathlib.Algebra.Order.Field.Rat
import Predefined.Proofs.Conversions
import Predefined.Proofs.HalfUp

namespace Predefined

namespace Double

/-! ## The nearest whole number to a ratio -/

section RoundDiv

variable {num den : Nat}

/-- The rounded quotient is half a divisor away at most, and an odd one is nearer. -/
theorem roundDiv_near (num : Nat) (hden : 0 < den) :
    2 * (roundDiv num den * den - num : Int).natAbs < den ∨
      2 * (roundDiv num den * den - num : Int).natAbs = den ∧ roundDiv num den % 2 = 0 := by
  have hsum : num / den * den + num % den = num := Nat.div_add_mod' num den
  have hlt : num % den < den := Nat.mod_lt num hden
  have hnext : (num / den + 1) * den = num / den * den + den := Nat.succ_mul _ _
  rw [← Int.natCast_mul]
  unfold roundDiv
  dsimp only
  split
  · omega
  · split
    · rw [hnext]
      omega
    · split
      · omega
      · rw [hnext]
        omega

/-- No other whole number is nearer, and one is as near to a tie only. -/
theorem roundDiv_nearest (hden : 0 < den) {m : Nat} (h : m ≠ roundDiv num den) :
    (roundDiv num den * den - num : Int).natAbs < (m * den - num : Int).natAbs ∨
      (roundDiv num den * den - num : Int).natAbs = (m * den - num : Int).natAbs ∧
        roundDiv num den % 2 = 0 := by
  have hnear := roundDiv_near num hden
  rw [← Int.natCast_mul] at hnear ⊢
  rw [← Int.natCast_mul]
  rcases Nat.lt_or_gt_of_ne h with hbelow | habove
  · have hstep : (m + 1) * den ≤ roundDiv num den * den := Nat.mul_le_mul_right _ hbelow
    rw [Nat.succ_mul] at hstep
    omega
  · have hstep : (roundDiv num den + 1) * den ≤ m * den := Nat.mul_le_mul_right _ habove
    rw [Nat.succ_mul] at hstep
    omega

theorem natAbs_roundDiv_le (hden : 0 < den) (m : Nat) :
    (roundDiv num den * den - num : Int).natAbs ≤ (m * den - num : Int).natAbs := by
  by_cases h : m = roundDiv num den
  · rw [h]
  · rcases roundDiv_nearest hden h with hlt | ⟨heq, -⟩
    · exact hlt.le
    · exact heq.le

/-- A quotient below a whole number is not rounded above it. -/
theorem roundDiv_le {m : Nat} (h : num < m * den) : roundDiv num den ≤ m := by
  have hquotient : num / den < m := Nat.div_lt_of_lt_mul (by rwa [Nat.mul_comm])
  unfold roundDiv
  dsimp only
  split
  · omega
  · split
    · omega
    · split <;> omega

end RoundDiv

/-! ## The nearest magnitude to a ratio -/

/-- How many places are rounded away from a ratio, in units. -/
def places (num den : Nat) : Nat :=
  (num * one / den).log2 - 52

theorem nearest_eq (num den : Nat) :
    nearest num den = places num den * 0x10000000000000 +
      roundDiv (num * one) (den * Nat.pow 2 (places num den)) :=
  rfl

section Nearest

variable {num den : Nat}

/-- There are 53 places left at most. -/
theorem lt_of_places (hden : 0 < den) :
    num * one < 0x20000000000000 * (den * Nat.pow 2 (places num den)) := by
  have hquotient : num * one / den < Nat.pow 2 (53 + places num den) :=
    calc num * one / den < Nat.pow 2 ((num * one / den).log2 + 1) := Nat.lt_log2_self
      _ ≤ Nat.pow 2 (53 + places num den) := by
          unfold places
          exact Nat.pow_le_pow_right (by decide) (by omega)
  rw [pow_add, Nat.div_lt_iff_lt_mul hden] at hquotient
  calc num * one < Nat.pow 2 53 * Nat.pow 2 (places num den) * den := hquotient
    _ = 0x20000000000000 * (den * Nat.pow 2 (places num den)) := by
        rw [Nat.mul_assoc, Nat.mul_comm den]

/-- Where places are rounded away, 53 are left. -/
theorem le_of_places (hden : 0 < den) (h : places num den ≠ 0) :
    0x10000000000000 * (den * Nat.pow 2 (places num den)) ≤ num * one := by
  have hlog : (num * one / den).log2 = 52 + places num den := by
    unfold places at h ⊢
    omega
  have hne : num * one / den ≠ 0 := by
    intro hzero
    rw [hzero, Nat.log2_zero] at hlog
    omega
  have hquotient : Nat.pow 2 (52 + places num den) ≤ num * one / den := by
    rw [← hlog]
    exact Nat.log2_self_le hne
  rw [pow_add, Nat.le_div_iff_mul_le hden] at hquotient
  calc 0x10000000000000 * (den * Nat.pow 2 (places num den))
      = Nat.pow 2 52 * Nat.pow 2 (places num den) * den := by
        rw [Nat.mul_assoc, Nat.mul_comm den]
    _ ≤ num * one := hquotient

/-- A mantissa that was rounded up to the next place counts as the least one there. -/
theorem units_of_rounded {m s : Nat} (hle : m ≤ 0x20000000000000)
    (hfull : s ≠ 0 → 0x10000000000000 ≤ m) :
    units (s * 0x10000000000000 + m) = m * Nat.pow 2 s := by
  by_cases hcarry : m = 0x20000000000000
  · have hcode : s * 0x10000000000000 + m = (s + 1) * 0x10000000000000 + 0x10000000000000 := by
      omega
    rw [hcode, units_of_mantissa (Nat.le_refl _) (by decide), hcarry,
      show Nat.pow 2 (s + 1) = Nat.pow 2 s * 2 from rfl]
    ring
  · by_cases hs : s = 0
    · subst hs
      rw [Nat.zero_mul, Nat.zero_add, units_of_lt (by omega)]
      exact (Nat.mul_one m).symm
    · exact units_of_mantissa (hfull hs) (by omega) s

theorem units_nearest (hden : 0 < den) :
    units (nearest num den) =
      roundDiv (num * one) (den * Nat.pow 2 (places num den)) * Nat.pow 2 (places num den) := by
  have hstep : 0 < den * Nat.pow 2 (places num den) := Nat.mul_pos hden (pow_pos (by decide) _)
  rw [nearest_eq]
  refine units_of_rounded (roundDiv_le (lt_of_places hden)) fun h => ?_
  exact ((Nat.le_div_iff_mul_le hstep).2 (le_of_places hden h)).trans (div_le_roundDiv _ _)

theorem mantissa_mod_two (code : Nat) : mantissa code % 2 = code % 2 := by
  have hle := shift_mul_le code
  unfold mantissa
  omega

theorem nearest_mod_two (num den : Nat) :
    mantissa (nearest num den) % 2 =
      roundDiv (num * one) (den * Nat.pow 2 (places num den)) % 2 := by
  rw [mantissa_mod_two, nearest_eq]
  omega

/-- A magnitude fills a given place or is smaller than the full mantissas at it. -/
theorem dvd_units_or_lt (code p : Nat) :
    Nat.pow 2 p ∣ units code ∨ p ≠ 0 ∧ units code < 0x10000000000000 * Nat.pow 2 p := by
  by_cases hplace : p ≤ shift code
  · exact Or.inl ((Nat.pow_dvd_pow 2 hplace).trans (Nat.dvd_mul_left _ _))
  · exact Or.inr ⟨by omega, units_lt_of_shift_lt (by omega)⟩

/-- How far units are from a ratio, in parts of which a unit has `den`. -/
def distance (num den : Nat) (v : Int) : Nat :=
  (v * den - (num * one : Nat)).natAbs

theorem distance_mul_pow (m p : Nat) :
    distance num den (m * Nat.pow 2 p : Nat) =
      (m * (den * Nat.pow 2 p : Nat) - (num * one : Nat) : Int).natAbs := by
  unfold distance
  congr 2
  push_cast
  ring

/-- No multiple of the last place is nearer, and one is as near to a tie only. -/
theorem distance_nearest_multiple (hden : 0 < den) {m : Nat}
    (h : m * Nat.pow 2 (places num den) ≠ units (nearest num den)) :
    distance num den (units (nearest num den)) <
        distance num den (m * Nat.pow 2 (places num den) : Nat) ∨
      distance num den (units (nearest num den)) =
          distance num den (m * Nat.pow 2 (places num den) : Nat) ∧
        mantissa (nearest num den) % 2 = 0 := by
  have hstep : 0 < den * Nat.pow 2 (places num den) := Nat.mul_pos hden (pow_pos (by decide) _)
  rw [units_nearest hden] at h ⊢
  rw [distance_mul_pow, distance_mul_pow, nearest_mod_two]
  apply roundDiv_nearest hstep
  rintro rfl
  exact h rfl

theorem distance_nearest_le (num : Nat) (hden : 0 < den) (m : Nat) :
    distance num den (units (nearest num den)) ≤
      distance num den (m * Nat.pow 2 (places num den) : Nat) := by
  have hstep : 0 < den * Nat.pow 2 (places num den) := Nat.mul_pos hden (pow_pos (by decide) _)
  rw [units_nearest hden, distance_mul_pow, distance_mul_pow]
  exact natAbs_roundDiv_le hstep m

/-- Below zero everything is farther than zero is. -/
theorem distance_nearest_lt_of_neg (hden : 0 < den) {v : Int} (h : v < 0) :
    distance num den (units (nearest num den)) < distance num den v := by
  have hzero := distance_nearest_le num hden 0
  have hproduct : v * den < 0 := Int.mul_neg_of_neg_of_pos h (Int.natCast_pos.mpr hden)
  rw [Nat.zero_mul] at hzero
  unfold distance at hzero ⊢
  rw [Int.natCast_zero, Int.zero_mul] at hzero
  omega

/-- The magnitudes of smaller places are all farther than the least full mantissa is. -/
theorem distance_nearest_lt_of_lt (hden : 0 < den) (hplaces : places num den ≠ 0) {n : Nat}
    (h : n < 0x10000000000000 * Nat.pow 2 (places num den)) :
    distance num den (units (nearest num den)) < distance num den n := by
  have hfull := distance_nearest_le num hden 0x10000000000000
  have hle := le_of_places hden hplaces
  have hlt : n * den < 0x10000000000000 * (den * Nat.pow 2 (places num den)) :=
    calc n * den < 0x10000000000000 * Nat.pow 2 (places num den) * den :=
          Nat.mul_lt_mul_of_pos_right h hden
      _ = 0x10000000000000 * (den * Nat.pow 2 (places num den)) := by
          rw [Nat.mul_assoc, Nat.mul_comm den]
  rw [distance_mul_pow] at hfull
  refine Nat.lt_of_le_of_lt hfull ?_
  unfold distance
  rw [← Int.natCast_mul, ← Int.natCast_mul]
  generalize 0x10000000000000 * (den * Nat.pow 2 (places num den)) = full at hle hlt ⊢
  omega

/-- No other magnitude is nearer to a ratio, with either sign, and one is as near to a tie only. -/
theorem distance_nearest (hden : 0 < den) (negative : Bool) {code : Nat}
    (h : signedUnits negative code ≠ units (nearest num den)) :
    distance num den (units (nearest num den)) < distance num den (signedUnits negative code) ∨
      distance num den (units (nearest num den)) =
          distance num den (signedUnits negative code) ∧
        mantissa (nearest num den) % 2 = 0 := by
  by_cases hneg : signedUnits negative code < 0
  · exact Or.inl (distance_nearest_lt_of_neg hden hneg)
  · have hunits : signedUnits negative code = units code := by
      unfold signedUnits at hneg ⊢
      cases negative with
      | false => rfl
      | true =>
        simp only [if_true] at hneg ⊢
        omega
    rw [hunits] at h ⊢
    rcases dvd_units_or_lt code (places num den) with ⟨m, hm⟩ | ⟨hplaces, hlt⟩
    · rw [Nat.mul_comm] at hm
      rw [hm] at h ⊢
      exact distance_nearest_multiple hden fun heq => h (congrArg Nat.cast heq)
    · exact Or.inl (distance_nearest_lt_of_lt hden hplaces hlt)

/-- A ratio that is not above a magnitude is not rounded above it. -/
theorem nearest_le_of_le_units {code : Nat} (hden : 0 < den) (h : num * one ≤ units code * den) :
    nearest num den ≤ code := by
  by_contra hgt
  have hne : units code ≠ units (nearest num den) := by
    intro heq
    have hself := nearest_units code
    rw [heq, nearest_units] at hself
    exact hgt hself.le
  have hlt : units code < units (nearest num den) :=
    Nat.lt_of_le_of_ne (units_mono (by omega)) hne
  -- Both are above the ratio, and the smaller one is nearer to it.
  have hfarther : distance num den (units code) < distance num den (units (nearest num den)) := by
    have hproduct := Nat.mul_lt_mul_of_pos_right hlt hden
    unfold distance
    rw [← Int.natCast_mul, ← Int.natCast_mul]
    omega
  have hother : signedUnits false code ≠ units (nearest num den) :=
    fun heq => hne (Int.ofNat_inj.1 heq)
  rcases distance_nearest hden false hother with hnearer | ⟨heq, -⟩
  · exact Nat.lt_asymm hfarther hnearer
  · exact Nat.ne_of_gt hfarther heq

end Nearest

/-! ## The nearest double to an integer -/

/-- A finite double that no other number is nearer to `x` than, and no other is as near unless the
mantissa is even. -/
def IsNearest (x : ℚ) (d : Double) : Prop :=
  ∃ s code, ∃ h : code < 0x7FF0000000000000, d = finite s code h ∧
    ∀ t other, other < 0x7FF0000000000000 → exact t other ≠ exact s code →
      |exact s code - x| < |exact t other - x| ∨
        |exact s code - x| = |exact t other - x| ∧ mantissa code % 2 = 0

theorem signedUnits_not (s : Bool) (code : Nat) : signedUnits (!s) code = -signedUnits s code := by
  unfold signedUnits
  cases s <;> simp

theorem signedUnits_eq_of_xor {s t : Bool} {code other : Nat}
    (h : signedUnits (t ^^ s) other = units code) : signedUnits t other = signedUnits s code := by
  cases s with
  | false => rwa [Bool.xor_false] at h
  | true =>
    have hnegative : signedUnits true code = -units code := if_pos rfl
    rw [Bool.xor_true, signedUnits_not] at h
    rw [hnegative, ← h, Int.neg_neg]

theorem natAbs_signedUnits_sub (i : Int) (s : Bool) (code : Nat) :
    (signedUnits s code - i * one).natAbs =
      distance i.natAbs 1 (signedUnits (s ^^ decide (i < 0)) code) := by
  unfold distance
  rw [Int.natCast_mul, Int.natCast_one, Int.mul_one]
  by_cases hneg : i < 0
  · have habs : (i.natAbs : Int) = -i := by omega
    rw [decide_eq_true hneg, Bool.xor_true, signedUnits_not, habs, Int.neg_mul]
    omega
  · have habs : (i.natAbs : Int) = i := by omega
    rw [decide_eq_false hneg, Bool.xor_false, habs]

theorem abs_exact_sub (i : Int) (s : Bool) (code : Nat) :
    |exact s code - i| = distance i.natAbs 1 (signedUnits (s ^^ decide (i < 0)) code) / one := by
  have hone : (0 : ℚ) < one := Nat.cast_pos.mpr one_pos
  have hsub : exact s code - i = ((signedUnits s code - i * one : Int) : ℚ) / one := by
    unfold exact
    push_cast
    rw [sub_div, mul_div_cancel_right₀ _ hone.ne']
  rw [hsub, abs_div, abs_of_pos hone, ← Int.cast_abs, Int.abs_eq_natAbs, natAbs_signedUnits_sub,
    Int.cast_natCast]

theorem isNearest_ofInt {i : Int} {bound : Nat} (hbound : bound < 0x7FF0000000000000)
    (h : i.natAbs * one ≤ units bound) : (ofInt i).IsNearest i := by
  have hle : nearest i.natAbs 1 ≤ bound :=
    nearest_le_of_le_units Nat.one_pos (by rwa [Nat.mul_one])
  have hcode : nearest i.natAbs 1 < 0x7FF0000000000000 := by omega
  refine ⟨decide (i < 0), nearest i.natAbs 1, hcode, ?_, fun t other hother hne => ?_⟩
  · exact dif_pos hcode
  · have hone : (0 : ℚ) < one := Nat.cast_pos.mpr one_pos
    have hself : signedUnits (decide (i < 0) ^^ decide (i < 0)) (nearest i.natAbs 1) =
        units (nearest i.natAbs 1) := by
      rw [Bool.xor_self]
      rfl
    have hvalue : signedUnits (t ^^ decide (i < 0)) other ≠ units (nearest i.natAbs 1) := by
      intro heq
      apply hne
      unfold exact
      rw [signedUnits_eq_of_xor heq]
    rw [abs_exact_sub, abs_exact_sub, hself, div_lt_div_iff_of_pos_right hone,
      div_left_inj' hone.ne', Nat.cast_lt, Nat.cast_inj]
    exact distance_nearest Nat.one_pos _ hvalue

/-- No integer of 64 bits is beyond the double that is the next one after the greatest of them. -/
theorem isNearest_ofInt64 (i : Int64) : (ofInt i.toInt).IsNearest i.toInt := by
  obtain ⟨s, bound, hbound, -, hvalue⟩ := counts_maxValue
  have hunits : units bound = 0x8000000000000000 * one := by
    have hleast : (0x8000000000000000 : Int).natAbs = 0x8000000000000000 := rfl
    rw [← natAbs_signedUnits s, hvalue, natAbs_mul_one, hleast]
  have habs : i.toInt.natAbs ≤ 0x8000000000000000 := by
    have hlow := i.le_toInt
    have hhigh := i.toInt_lt
    omega
  refine isNearest_ofInt hbound ?_
  rw [hunits]
  exact Nat.mul_le_mul_right _ habs

/-! ## The text of an integer as a double -/

theorem readMagnitude_chars (negative : Bool) (d : Digit) (ds : List Digit) :
    readMagnitude negative (Decimal.chars (d :: ds)) =
      some (ofCode negative (nearest (Decimal.value (d :: ds)) 1)) := by
  have hcode : decimalCode (Decimal.value (d :: ds)) 0 = nearest (Decimal.value (d :: ds)) 1 := by
    unfold decimalCode
    rw [show Decimal.value (d :: ds) * Nat.pow 10 (0 : Int).toNat = Decimal.value (d :: ds) from
      Nat.mul_one _]
    rfl
  simp only [readMagnitude, Decimal.scan_chars, List.isEmpty_cons, Bool.false_and, readExponent,
    Option.map_some, List.append_nil, List.length_nil, ofDecimal_eq]
  rw [if_neg Bool.false_ne_true]
  show some (ofCode negative (decimalCode (Decimal.value (d :: ds)) 0)) = _
  rw [hcode]

theorem readChars_intChars (i : Int) : readChars (Decimal.intChars i) = some (ofInt i) := by
  obtain ⟨d, ds, hchars, hdigits⟩ := Decimal.natChars_eq_cons i.natAbs
  have hsigned : Decimal.intChars i =
      signChars (decide (i < 0)) ++ d.char :: Decimal.chars ds := by
    unfold Decimal.intChars
    rw [hchars]
    by_cases hneg : i < 0
    · rw [if_pos hneg, decide_eq_true hneg]
      rfl
    · rw [if_neg hneg, decide_eq_false hneg]
      rfl
  rw [hsigned, readChars_signChars]
  show readMagnitude _ (Decimal.chars (d :: ds)) = _
  rw [readMagnitude_chars, ← hdigits, Decimal.value_digits]
  rfl

end Double

namespace Value

theorem isSpace_intChars (i : Int) : ∀ c ∈ Decimal.intChars i, isSpace c = false := by
  have hdigits : ∀ ds, ∀ c ∈ Decimal.chars ds, isSpace c = false := by
    intro ds c hc
    obtain ⟨d, -, rfl⟩ := List.mem_map.1 hc
    exact isSpace_digit d
  intro c hc
  unfold Decimal.intChars at hc
  split at hc
  · rcases List.mem_cons.1 hc with rfl | hc
    · decide +kernel
    · exact hdigits _ c hc
  · exact hdigits _ c hc

/-- The way by the text ends where the direct one does. -/
theorem toFloat_integer (i : Int64) :
    toFloat (integer i) = .ok (double (Double.ofInt i.toInt)) := by
  simp only [toFloat, text, Decimal.intText, String.toList_ofList,
    stripped_of_forall (isSpace_intChars _), Double.readChars_intChars]

end Value

/-- An integer is the same double by its text and at once, and that is the nearest one to it, a tie
going to the even mantissa. Roots and powers of the integer are those of the double. -/
theorem integers_become_the_nearest_doubles (i : Int64) :
    ∃ d : Double, Value.toFloat (.integer i) = .ok (.double d) ∧
      Value.asDouble? (.integer i) = some d ∧ d.IsNearest i.toInt ∧
      Value.sqrt (.integer i) = .ok (.double d.sqrt) ∧
      (∀ e, Value.pow (.integer i) (.double e) = .ok (.double (d.pow e)) ∧
        Value.pow (.double e) (.integer i) = .ok (.double (e.pow d))) ∧
      ∀ j, Value.pow (.integer i) (.integer j) = Value.pow (.double d) (.integer j) :=
  ⟨Double.ofInt i.toInt, Value.toFloat_integer i, rfl, Double.isNearest_ofInt64 i, rfl,
    fun _ => ⟨rfl, rfl⟩, fun _ => rfl⟩

/-- The first integer that is no double is as near to the one below as to the one above. -/
example : Double.ofInt 0x20000000000001 = Double.ofInt 0x20000000000000 := by
  decide +kernel

end Predefined
