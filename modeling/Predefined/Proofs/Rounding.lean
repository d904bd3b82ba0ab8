-- Rounding to doubles. The nearest double depends on a ratio only and not on how the ratio is
-- written, a ratio that is a magnitude is rounded to it, and a whole number to a whole one. A
-- decimal is rounded as the ratio that it stands for: where large and small ones are told apart by
-- their number of places alone, rounding would give the same.
import Mathlib.Tactic.Ring
import Predefined.Double.Basic

namespace Predefined.Double

/-! ## Ratios -/

theorem pow_pos {base : Nat} (h : 0 < base) (k : Nat) : 0 < Nat.pow base k :=
  Nat.pow_pos h

theorem pow_add (base j k : Nat) : Nat.pow base (j + k) = Nat.pow base j * Nat.pow base k :=
  Nat.pow_add base j k

theorem one_eq : one = Nat.pow 2 1074 := by
  unfold one
  with_reducible rfl

/-- The number of units in 1 is a power of two, more than a mantissa holds and within the shifts of
the finite magnitudes. -/
theorem exists_one_eq : ∃ k, 52 ≤ k ∧ k ≤ 2045 ∧ one = Nat.pow 2 k :=
  ⟨1074, by decide, by decide, one_eq⟩

theorem one_pos : 0 < one := by
  obtain ⟨k, -, -, hk⟩ := exists_one_eq
  rw [hk]
  exact pow_pos (by decide) k

theorem roundDiv_mul_left {k : Nat} (hk : 0 < k) (num den : Nat) :
    roundDiv (k * num) (k * den) = roundDiv num den := by
  have hquotient : k * num / (k * den) = num / den := Nat.mul_div_mul_left num den hk
  have hremainder : k * num % (k * den) = k * (num % den) := Nat.mul_mod_mul_left k num den
  have hlt : ∀ a b : Nat, k * a < k * b ↔ a < b := fun a b => Nat.mul_lt_mul_left hk
  have htwice : 2 * (k * (num % den)) = k * (2 * (num % den)) := by ring
  simp only [roundDiv, hquotient, hremainder, htwice, hlt]

theorem roundDiv_mul_right (q : Nat) {den : Nat} (hden : 0 < den) :
    roundDiv (q * den) den = q := by
  have hquotient : q * den / den = q := Nat.mul_div_cancel q hden
  have hremainder : q * den % den = 0 := Nat.mul_mod_left q den
  simp only [roundDiv, hquotient, hremainder]
  rw [if_pos (by omega)]

/-- Both parts of a ratio may be multiplied by a number. -/
theorem nearest_mul_left {k : Nat} (hk : 0 < k) (num den : Nat) :
    nearest (k * num) (k * den) = nearest num den := by
  have hscaled : k * num * one = k * (num * one) := by ring
  have hquotient : k * num * one / (k * den) = num * one / den := by
    rw [hscaled, Nat.mul_div_mul_left _ _ hk]
  have hround : ∀ places, roundDiv (k * num * one) (k * den * Nat.pow 2 places) =
      roundDiv (num * one) (den * Nat.pow 2 places) := by
    intro places
    rw [hscaled, Nat.mul_assoc k den, roundDiv_mul_left hk]
  simp only [nearest, hquotient, hround]

/-- Equal ratios are rounded alike. -/
theorem nearest_congr {num den num' den' : Nat} (hden : 0 < den) (hden' : 0 < den')
    (h : num * den' = num' * den) : nearest num den = nearest num' den' := by
  have hnum : den' * num = den * num' := by rw [Nat.mul_comm, h, Nat.mul_comm]
  rw [← nearest_mul_left hden' num den, hnum, Nat.mul_comm den' den, nearest_mul_left hden]

/-- A ratio that has so many binary places at least is rounded to a code of as many shifts. -/
theorem le_nearest {num den k : Nat} (hden : 0 < den) (h : Nat.pow 2 k * den ≤ num * one) :
    (k - 52) * 0x10000000000000 ≤ nearest num den := by
  have hquotient : Nat.pow 2 k ≤ num * one / den := (Nat.le_div_iff_mul_le hden).2 h
  have hpos : num * one / den ≠ 0 := by
    have : 0 < Nat.pow 2 k := pow_pos (by decide) k
    omega
  have hlog : k ≤ (num * one / den).log2 := (Nat.le_log2 hpos).2 hquotient
  simp only [nearest]
  omega

/-- A ratio below half a unit is rounded to zero. -/
theorem nearest_eq_zero {num den : Nat} (h : 2 * (num * one) < den) : nearest num den = 0 := by
  have hquotient : num * one / den = 0 := Nat.div_eq_of_lt (by omega)
  have hremainder : num * one % den = num * one := Nat.mod_eq_of_lt (by omega)
  have hden : den * Nat.pow 2 (Nat.log2 0 - 52) = den := by
    rw [Nat.log2_zero]
    exact Nat.mul_one den
  have hround : roundDiv (num * one) den = 0 := by
    simp only [roundDiv, hquotient, hremainder]
    rw [if_pos h]
  simp only [nearest, hquotient, hden, hround]
  rw [Nat.log2_zero, Nat.zero_sub, Nat.zero_mul]

/-! ## Magnitudes -/

theorem shift_mul_le (code : Nat) : shift code * 0x10000000000000 ≤ code := by
  simp only [shift]
  omega

theorem mantissa_lt (code : Nat) : mantissa code < 0x20000000000000 := by
  simp only [mantissa, shift]
  omega

theorem le_mantissa {code : Nat} (h : shift code ≠ 0) : 0x10000000000000 ≤ mantissa code := by
  simp only [mantissa, shift] at *
  omega

theorem log2_mul_pow {n : Nat} (h : n ≠ 0) (k : Nat) : (n * Nat.pow 2 k).log2 = n.log2 + k := by
  induction k with
  | zero => rw [show n * Nat.pow 2 0 = n from Nat.mul_one n, Nat.add_zero]
  | succ k ih =>
    have hdouble : n * Nat.pow 2 (k + 1) = 2 * (n * Nat.pow 2 k) := by
      rw [show Nat.pow 2 (k + 1) = Nat.pow 2 k * 2 from rfl]
      ring
    have hpos : n * Nat.pow 2 k ≠ 0 := Nat.mul_ne_zero h (pow_pos (by decide) k).ne'
    rw [hdouble, Nat.log2_two_mul hpos, ih, Nat.add_assoc]

/-- The number of binary places of a magnitude gives its shift. -/
theorem log2_units (code : Nat) : (units code).log2 - 52 = shift code := by
  have hlt := mantissa_lt code
  by_cases hshift : shift code = 0
  · have hunits : units code = mantissa code := by
      rw [units, hshift]
      exact Nat.mul_one _
    have hlog : (mantissa code).log2 < 53 ∨ mantissa code = 0 := by
      by_cases hzero : mantissa code = 0
      · exact Or.inr hzero
      · exact Or.inl ((Nat.log2_lt hzero).2 (by omega))
    rcases hlog with hlog | hzero
    · rw [hunits, hshift]
      omega
    · rw [hunits, hzero, hshift]
      rfl
  · have hle := le_mantissa hshift
    have hlog : (mantissa code).log2 = 52 := by
      rw [Nat.log2_eq_iff (by omega)]
      omega
    have hunits : (units code).log2 = (mantissa code).log2 + shift code :=
      log2_mul_pow (by omega) _
    rw [hunits, hlog]
    omega

/-- A magnitude is the nearest one to itself. -/
theorem nearest_units (code : Nat) : nearest (units code) one = code := by
  have hquotient : units code * one / one = units code := Nat.mul_div_cancel _ one_pos
  have hround : roundDiv (units code * one) (one * Nat.pow 2 (shift code)) = mantissa code := by
    have hproduct : units code * one = mantissa code * (one * Nat.pow 2 (shift code)) := by
      rw [units]
      ring
    rw [hproduct]
    exact roundDiv_mul_right _ (Nat.mul_pos one_pos (pow_pos (by decide) _))
  have hle := shift_mul_le code
  simp only [nearest, hquotient, log2_units, hround, mantissa]
  omega

theorem nearest_zero (den : Nat) : nearest 0 den = 0 := by
  have hround : ∀ d, roundDiv 0 d = 0 := fun d => by simp [roundDiv]
  simp only [nearest, Nat.zero_mul, Nat.zero_div, hround, Nat.log2_zero]

/-- The code of a mantissa and a shift. -/
theorem units_of_mantissa {m : Nat} (hle : 0x10000000000000 ≤ m) (hlt : m < 0x20000000000000)
    (s : Nat) : units (s * 0x10000000000000 + m) = m * Nat.pow 2 s := by
  have hshift : shift (s * 0x10000000000000 + m) = s := by
    simp only [shift]
    omega
  have hmantissa : mantissa (s * 0x10000000000000 + m) = m := by
    rw [mantissa, hshift]
    omega
  rw [units, hshift, hmantissa]

/-- A magnitude is whole when it has as many shifts as there are binary places behind the point. -/
theorem units_mod_one_of_le_shift {code k : Nat} (hk : one = Nat.pow 2 k) (h : k ≤ shift code) :
    units code % one = 0 := by
  obtain ⟨j, hj⟩ := Nat.exists_eq_add_of_le h
  have hproduct : units code = mantissa code * Nat.pow 2 j * one := by
    rw [units, hj, hk, pow_add]
    ring
  rw [hproduct, Nat.mul_mod_left]

theorem units_of_lt {code : Nat} (h : code < 0x20000000000000) : units code = code := by
  have hshift : shift code = 0 := by
    unfold shift
    omega
  have hmantissa : mantissa code = code := by
    unfold mantissa
    omega
  rw [units, hshift, hmantissa]
  exact Nat.mul_one code

/-- A number that has no more places than a mantissa is a magnitude itself, wherever its last place
is. Its code is bounded by its places. -/
theorem exists_units_eq {m : Nat} (hm : m < 0x20000000000000) (s : Nat) :
    ∃ code, units code = m * Nat.pow 2 s ∧ code ≤ s * 0x10000000000000 + m := by
  induction s generalizing m with
  | zero => exact ⟨m, (units_of_lt hm).trans (Nat.mul_one m).symm, by omega⟩
  | succ s ih =>
    by_cases hfull : 0x10000000000000 ≤ m
    · exact ⟨(s + 1) * 0x10000000000000 + m, units_of_mantissa hfull hm (s + 1), Nat.le_refl _⟩
    · obtain ⟨code, hunits, hle⟩ := ih (show 2 * m < 0x20000000000000 by omega)
      refine ⟨code, ?_, ?_⟩
      · rw [hunits, show Nat.pow 2 (s + 1) = Nat.pow 2 s * 2 from rfl]
        ring
      · rw [Nat.succ_mul]
        generalize s * 0x10000000000000 = places at hle ⊢
        omega

/-- A whole number is rounded to a whole magnitude. -/
theorem units_nearest_mod_one (n : Nat) : units (nearest n 1) % one = 0 := by
  obtain ⟨k, h52, -, hk⟩ := exists_one_eq
  by_cases hn : n = 0
  · have hzero : units 0 = 0 := rfl
    rw [hn, nearest_zero, hzero, Nat.zero_mod]
  · by_cases hsmall : n < 0x20000000000000
    · obtain ⟨code, hcode, -⟩ := exists_units_eq hsmall k
      rw [← hk] at hcode
      have hratio : n * one = units code * 1 := by rw [hcode, Nat.mul_one]
      have hnearest : nearest n 1 = code :=
        (nearest_congr Nat.one_pos one_pos hratio).trans (nearest_units code)
      rw [hnearest, hcode, Nat.mul_mod_left]
    · have hplaces : Nat.pow 2 (n.log2 + k) * 1 ≤ n * one := by
        rw [hk, Nat.mul_one, pow_add]
        exact Nat.mul_le_mul_right _ (Nat.log2_self_le hn)
      have hcode := le_nearest Nat.one_pos hplaces
      have hlog : 53 ≤ n.log2 := (Nat.le_log2 hn).2 (by omega)
      refine units_mod_one_of_le_shift hk ?_
      simp only [shift]
      omega

/-! ## Order -/

theorem shift_mono {code code' : Nat} (h : code ≤ code') : shift code ≤ shift code' := by
  unfold shift
  omega

/-- A magnitude of smaller places is below the full mantissas at a place. -/
theorem units_lt_of_shift_lt {code p : Nat} (h : shift code < p) :
    units code < 0x10000000000000 * Nat.pow 2 p := by
  have hpow : Nat.pow 2 (shift code) * 2 ≤ Nat.pow 2 p := by
    rw [show Nat.pow 2 (shift code) * 2 = Nat.pow 2 (shift code + 1) from rfl]
    exact Nat.pow_le_pow_right (by decide) h
  calc units code < 0x20000000000000 * Nat.pow 2 (shift code) := by
        unfold units
        exact Nat.mul_lt_mul_of_pos_right (mantissa_lt code) (pow_pos (by decide) _)
    _ = 0x10000000000000 * (Nat.pow 2 (shift code) * 2) := by ring
    _ ≤ 0x10000000000000 * Nat.pow 2 p := Nat.mul_le_mul_left _ hpow

/-- The codes are in the order of the magnitudes. -/
theorem units_mono {code code' : Nat} (h : code ≤ code') : units code ≤ units code' := by
  by_cases hshift : shift code = shift code'
  · have hmantissa : mantissa code ≤ mantissa code' := by
      unfold mantissa
      omega
    unfold units
    rw [hshift]
    exact Nat.mul_le_mul_right _ hmantissa
  · have hlt : shift code < shift code' := Nat.lt_of_le_of_ne (shift_mono h) hshift
    have hfull : 0x10000000000000 ≤ mantissa code' := le_mantissa (by omega)
    calc units code ≤ 0x10000000000000 * Nat.pow 2 (shift code') := (units_lt_of_shift_lt hlt).le
      _ ≤ units code' := Nat.mul_le_mul_right _ hfull

theorem div_le_roundDiv (num den : Nat) : num / den ≤ roundDiv num den := by
  unfold roundDiv
  dsimp only
  split
  · exact Nat.le_refl _
  · split
    · exact Nat.le_succ _
    · split
      · exact Nat.le_refl _
      · exact Nat.le_succ _

/-- A ratio that is not below a magnitude is not rounded below it. -/
theorem le_nearest_of_units_le {num den code : Nat} (hden : 0 < den)
    (h : units code * den ≤ num * one) : code ≤ nearest num den := by
  have hquotient : units code ≤ num * one / den := (Nat.le_div_iff_mul_le hden).2 h
  have hround : num * one / den / Nat.pow 2 ((num * one / den).log2 - 52) ≤
      roundDiv (num * one) (den * Nat.pow 2 ((num * one / den).log2 - 52)) := by
    rw [Nat.div_div_eq_div_mul]
    exact div_le_roundDiv _ _
  have hcode : shift code * 0x10000000000000 + mantissa code = code := by
    have := shift_mul_le code
    unfold mantissa
    omega
  have hlt := mantissa_lt code
  unfold nearest
  dsimp only
  generalize num * one / den = quotient at hquotient hround ⊢
  by_cases hplaces : shift code = quotient.log2 - 52
  · have hmantissa : mantissa code ≤ quotient / Nat.pow 2 (shift code) :=
      (Nat.le_div_iff_mul_le (pow_pos (by decide) _)).2 hquotient
    rw [← hplaces] at hround ⊢
    omega
  · have hlog : (units code).log2 ≤ quotient.log2 := by
      by_cases hzero : units code = 0
      · rw [hzero, Nat.log2_zero]
        exact Nat.zero_le _
      · exact (Nat.le_log2 (by omega)).2 ((Nat.log2_self_le hzero).trans hquotient)
    have hshift := log2_units code
    have hlarge : 0x10000000000000 ≤ quotient / Nat.pow 2 (quotient.log2 - 52) := by
      rw [Nat.le_div_iff_mul_le (pow_pos (by decide) _)]
      calc 0x10000000000000 * Nat.pow 2 (quotient.log2 - 52)
          = Nat.pow 2 (52 + (quotient.log2 - 52)) := (pow_add 2 52 _).symm
        _ = Nat.pow 2 quotient.log2 := by rw [Nat.add_sub_cancel' (by omega)]
        _ ≤ quotient := Nat.log2_self_le (by
          rintro rfl
          rw [Nat.log2_zero] at *
          omega)
    omega

/-! ## Decimals -/

/-- The code of the magnitude nearest to `digits * 10 ^ exponent`. -/
def decimalCode (digits : Nat) (exponent : Int) : Nat :=
  nearest (digits * Nat.pow 10 exponent.toNat) (Nat.pow 10 (-exponent).toNat)

theorem decimalCode_congr {m n : Nat} {e f : Int}
    (h : m * Nat.pow 10 (e.toNat + (-f).toNat) = n * Nat.pow 10 (f.toNat + (-e).toNat)) :
    decimalCode m e = decimalCode n f := by
  refine nearest_congr (pow_pos (by decide) _) (pow_pos (by decide) _) ?_
  rw [pow_add, pow_add] at h
  rw [Nat.mul_assoc, Nat.mul_assoc, h]

/-- Zeros at the end of the digits count as much as the exponent. -/
theorem decimalCode_mul_pow (m k : Nat) (e : Int) :
    decimalCode (m * Nat.pow 10 k) e = decimalCode m (e + k) := by
  refine decimalCode_congr ?_
  rw [Nat.mul_assoc, ← pow_add]
  congr 2
  omega

theorem pow_ten_le_pow_two (b : Nat) : Nat.pow 10 (3 * b / 10) ≤ Nat.pow 2 b := by
  have htenth : (10 ^ (3 * b / 10)) ^ 10 ≤ (2 ^ b) ^ 10 :=
    calc (10 ^ (3 * b / 10)) ^ 10 = 10 ^ (3 * b / 10 * 10) := (pow_mul _ _ _).symm
      _ ≤ 10 ^ (3 * b) := Nat.pow_le_pow_right (by decide) (Nat.div_mul_le_self _ _)
      _ = (10 ^ 3) ^ b := pow_mul _ _ _
      _ ≤ (2 ^ 10) ^ b := Nat.pow_le_pow_left (by decide) b
      _ = (2 ^ b) ^ 10 := pow_right_comm _ _ _
  exact (Nat.pow_le_pow_iff_left (by decide)).1 htenth

theorem pow_two_le_pow_ten (m : Nat) : Nat.pow 2 (3 * m) ≤ Nat.pow 10 m :=
  calc 2 ^ (3 * m) = (2 ^ 3) ^ m := pow_mul _ _ _
    _ ≤ 10 ^ m := Nat.pow_le_pow_left (by decide) m

/-- A decimal of many places is rounded to a code past all finite ones. -/
theorem le_decimalCode {digits q k t : Nat} {e : Int} (hdigits : Nat.pow 10 q ≤ digits)
    (hq : t + (-e).toNat ≤ q + e.toNat) (ht : Nat.pow 2 k ≤ Nat.pow 10 t * one) :
    (k - 52) * 0x10000000000000 ≤ decimalCode digits e := by
  refine le_nearest (pow_pos (by decide) _) ?_
  have hnum : Nat.pow 10 t * Nat.pow 10 (-e).toNat ≤ digits * Nat.pow 10 e.toNat :=
    calc Nat.pow 10 t * Nat.pow 10 (-e).toNat = Nat.pow 10 (t + (-e).toNat) := (pow_add _ _ _).symm
      _ ≤ Nat.pow 10 (q + e.toNat) := Nat.pow_le_pow_right (by decide) hq
      _ = Nat.pow 10 q * Nat.pow 10 e.toNat := pow_add _ _ _
      _ ≤ digits * Nat.pow 10 e.toNat := Nat.mul_le_mul_right _ hdigits
  calc Nat.pow 2 k * Nat.pow 10 (-e).toNat
      ≤ Nat.pow 10 t * one * Nat.pow 10 (-e).toNat := Nat.mul_le_mul_right _ ht
    _ = Nat.pow 10 t * Nat.pow 10 (-e).toNat * one := Nat.mul_right_comm _ _ _
    _ ≤ digits * Nat.pow 10 e.toNat * one := Nat.mul_le_mul_right _ hnum

/-- A decimal far below a unit is rounded to zero. -/
theorem decimalCode_eq_zero {digits q t : Nat} {e : Int} (hdigits : digits < Nat.pow 10 q)
    (hq : q + e.toNat + t ≤ (-e).toNat) (ht : 2 * one ≤ Nat.pow 10 t) :
    decimalCode digits e = 0 := by
  refine nearest_eq_zero ?_
  calc 2 * (digits * Nat.pow 10 e.toNat * one)
      = digits * Nat.pow 10 e.toNat * (2 * one) := Nat.mul_left_comm _ _ _
    _ ≤ digits * Nat.pow 10 e.toNat * Nat.pow 10 t := Nat.mul_le_mul_left _ ht
    _ = digits * Nat.pow 10 (e.toNat + t) := by rw [Nat.mul_assoc, ← pow_add]
    _ < Nat.pow 10 q * Nat.pow 10 (e.toNat + t) :=
        Nat.mul_lt_mul_of_pos_right hdigits (pow_pos (by decide) _)
    _ = Nat.pow 10 (q + e.toNat + t) := by rw [← pow_add, Nat.add_assoc]
    _ ≤ Nat.pow 10 (-e).toNat := Nat.pow_le_pow_right (by decide) hq

/-- Numbers of 311 places and more are past all finite magnitudes. -/
theorem exists_large : ∃ k t, 2099 = k ∧ 311 = t ∧ Nat.pow 2 k ≤ Nat.pow 10 t * one :=
  ⟨2099, 311, rfl, rfl, by decide +kernel⟩

theorem exists_small : ∃ t, 331 = t ∧ 2 * one ≤ Nat.pow 10 t :=
  ⟨331, rfl, by decide +kernel⟩

/-- Reading a decimal rounds the ratio that it stands for, whatever its number of places. -/
theorem ofDecimal_eq (negative : Bool) (digits : Nat) (exponent : Int) :
    ofDecimal negative digits exponent = ofCode negative (decimalCode digits exponent) := by
  by_cases hdigits : digits = 0
  · have hcode : decimalCode digits exponent = 0 := by
      rw [decimalCode, hdigits, Nat.zero_mul, nearest_zero]
    rw [hcode, ofDecimal, if_pos hdigits]
    rfl
  · have hlow : Nat.pow 2 digits.log2 ≤ digits := Nat.log2_self_le hdigits
    have hhigh : digits < Nat.pow 2 (digits.log2 + 1) := Nat.lt_log2_self
    simp only [ofDecimal, if_neg hdigits]
    split
    · rename_i hlarge
      obtain ⟨k, t, hk, ht, hlarge'⟩ := exists_large
      have hcode : (k - 52) * 0x10000000000000 ≤ decimalCode digits exponent :=
        le_decimalCode ((pow_ten_le_pow_two _).trans hlow) (by omega) hlarge'
      rw [ofCode, dif_neg (by omega)]
    · split
      · rename_i hsmall
        have hplaces : digits < Nat.pow 10 (digits.log2 / 3 + 1) :=
          calc digits < Nat.pow 2 (digits.log2 + 1) := hhigh
            _ ≤ Nat.pow 2 (3 * (digits.log2 / 3 + 1)) :=
                Nat.pow_le_pow_right (by decide) (by omega)
            _ ≤ Nat.pow 10 (digits.log2 / 3 + 1) := pow_two_le_pow_ten _
        obtain ⟨t, ht, hsmall'⟩ := exists_small
        have hcode : decimalCode digits exponent = 0 :=
          decimalCode_eq_zero hplaces (by omega) hsmall'
        rw [hcode]
        rfl
      · split
        · have hexponent : (-exponent).toNat = 0 := by omega
          rw [decimalCode, hexponent]
          rfl
        · have hexponent : exponent.toNat = 0 := by omega
          rw [decimalCode, hexponent, show digits * Nat.pow 10 0 = digits from Nat.mul_one digits]
          rfl

end Predefined.Double
