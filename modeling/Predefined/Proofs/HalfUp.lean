-- Rounding to integers, a tie upward. It takes three steps on doubles: the whole number below, what
-- is left above it, and one more when that is a half or more. Each step rounds its own result, and
-- yet the outcome is the exact one. Only what is left of a small negative number can be inexact, and
-- it is then more than a half and stays so; all other results are doubles themselves.
import Mathlib.Data.Rat.Floor
import Mathlib.Tactic.LinearCombination
import Predefined.Proofs.Rounding
import Predefined.Value.Arithmetic

namespace Predefined

namespace Double

/-! ## Magnitudes in units -/

/-- A number of units that a finite double has. -/
def IsMagnitude (n : Nat) : Prop :=
  ∃ code, code < 0x7FF0000000000000 ∧ units code = n

theorem isMagnitude_units {code : Nat} (h : code < 0x7FF0000000000000) :
    IsMagnitude (units code) :=
  ⟨code, h, rfl⟩

theorem isMagnitude_mul_pow {m s : Nat} (hm : m < 0x20000000000000) (hs : s ≤ 2045) :
    IsMagnitude (m * Nat.pow 2 s) := by
  obtain ⟨code, hunits, hle⟩ := exists_units_eq hm s
  have hplaces : s * 0x10000000000000 ≤ 2045 * 0x10000000000000 := Nat.mul_le_mul_right _ hs
  exact ⟨code, by omega, hunits⟩

/-- Whole numbers of 53 bits are magnitudes. -/
theorem isMagnitude_whole {n : Nat} (h : n < 0x20000000000000) : IsMagnitude (n * one) := by
  obtain ⟨k, -, hle, hk⟩ := exists_one_eq
  rw [hk]
  exact isMagnitude_mul_pow h hle

/-- What is not above a magnitude, and fills its last place, is a magnitude. -/
theorem isMagnitude_of_dvd {n code : Nat} (hcode : code < 0x7FF0000000000000)
    (hle : n ≤ units code) (hdvd : Nat.pow 2 (shift code) ∣ n) : IsMagnitude n := by
  obtain ⟨m, rfl⟩ := hdvd
  have hm : m ≤ mantissa code := by
    unfold units at hle
    rw [Nat.mul_comm] at hle
    exact Nat.le_of_mul_le_mul_right hle (pow_pos (by decide) _)
  have hlt := mantissa_lt code
  have hshift : shift code ≤ 2045 := by
    unfold shift
    omega
  rw [Nat.mul_comm]
  exact isMagnitude_mul_pow (by omega) hshift

/-- The last place of a magnitude with a fraction is below the point. -/
theorem shift_lt_of_fraction {code k : Nat} (hk : one = Nat.pow 2 k) (h : units code % one ≠ 0) :
    shift code < k := by
  by_contra hge
  exact h (units_mod_one_of_le_shift hk (by omega))

/-- A magnitude with a fraction has no more than 52 bits before the point. -/
theorem lt_of_fraction {code : Nat} (h : units code % one ≠ 0) :
    units code < 0x10000000000000 * one := by
  obtain ⟨k, -, -, hk⟩ := exists_one_eq
  have hlt := units_lt_of_shift_lt (shift_lt_of_fraction hk h)
  rwa [← hk] at hlt

/-- The last place of a magnitude with a fraction is a part of 1. -/
theorem pow_shift_dvd_one {code : Nat} (h : units code % one ≠ 0) :
    Nat.pow 2 (shift code) ∣ one := by
  obtain ⟨k, -, -, hk⟩ := exists_one_eq
  rw [hk]
  exact Nat.pow_dvd_pow 2 (shift_lt_of_fraction hk h).le

/-! ## Doubles that count units exactly -/

/-- A finite double of so many units. -/
def Counts (d : Double) (v : Int) : Prop :=
  ∃ s code, ∃ h : code < 0x7FF0000000000000, d = finite s code h ∧ signedUnits s code = v

variable {d e : Double} {v w : Int}

theorem natAbs_signedUnits (s : Bool) (code : Nat) : (signedUnits s code).natAbs = units code := by
  unfold signedUnits
  split <;> omega

/-- A number of units is its sign and its magnitude. -/
theorem signed_natAbs (i : Int) : (if decide (i < 0) then -(i.natAbs : Int) else i.natAbs) = i := by
  simp only [decide_eq_true_eq]
  split <;> omega

theorem Counts.place?_eq (h : d.Counts v) : d.place? = some v := by
  obtain ⟨s, code, hcode, rfl, rfl⟩ := h
  rfl

/-- A ratio that is a magnitude stays what it is. -/
theorem counts_ofRatio {num den n : Nat} (hden : 0 < den) (hn : IsMagnitude n)
    (h : num * one = n * den) (s : Bool) :
    (ofRatio s num den).Counts (if s then -(n : Int) else n) := by
  obtain ⟨code, hcode, rfl⟩ := hn
  have hnearest : nearest num den = code :=
    (nearest_congr hden one_pos h).trans (nearest_units code)
  refine ⟨s, code, hcode, ?_, rfl⟩
  unfold ofRatio
  rw [hnearest, ofCode, dif_pos hcode]

theorem counts_neg (h : d.Counts v) : d.neg.Counts (-v) := by
  obtain ⟨s, code, hcode, rfl, rfl⟩ := h
  refine ⟨!s, code, hcode, rfl, ?_⟩
  unfold signedUnits
  cases s <;> simp

theorem add_eq_ofRatio (hd : d.Counts v) (he : e.Counts w) (hne : v + w ≠ 0) :
    d.add e = ofRatio (v + w < 0) (v + w).natAbs one := by
  obtain ⟨s, a, ha, rfl, rfl⟩ := hd
  obtain ⟨t, b, hb, rfl, rfl⟩ := he
  unfold add
  dsimp only
  rw [if_neg hne]

/-- A sum that is a magnitude is exact. -/
theorem counts_add (hd : d.Counts v) (he : e.Counts w) (hsum : IsMagnitude (v + w).natAbs) :
    (d.add e).Counts (v + w) := by
  by_cases hzero : v + w = 0
  · obtain ⟨s, a, ha, rfl, rfl⟩ := hd
    obtain ⟨t, b, hb, rfl, rfl⟩ := he
    have hunits : units 0 = 0 := rfl
    unfold add
    dsimp only
    rw [if_pos hzero, hzero]
    exact ⟨s && t, 0, by decide, rfl, by simp [signedUnits, hunits]⟩
  · have hcounts := counts_ofRatio one_pos hsum rfl (decide (v + w < 0))
    rw [← add_eq_ofRatio hd he hzero] at hcounts
    rwa [signed_natAbs] at hcounts

/-! ## Order -/

theorem le_iff (hd : d.place? = some v) (he : e.place? = some w) : d.le e = true ↔ v ≤ w := by
  unfold le
  rw [hd, he]
  simp only [decide_eq_true_eq]

theorem lt_iff (hd : d.place? = some v) (he : e.place? = some w) : d.lt e = true ↔ v < w := by
  unfold lt
  rw [hd, he]
  simp only [decide_eq_true_eq]

theorem place?_ofCode (s : Bool) (code : Nat) :
    (ofCode s code).place? = some (signedUnits s (min code 0x7FF0000000000000)) := by
  unfold ofCode
  split
  · rw [Nat.min_eq_left (by omega), place?]
  · rw [Nat.min_eq_right (by omega), place?]

/-- A double that is not above a number of units is not above what that is rounded to. -/
theorem le_ofRatio {n : Nat} (hd : d.Counts v) (h : v ≤ n) :
    d.le (ofRatio false n one) = true := by
  rw [ofRatio, le_iff hd.place?_eq (place?_ofCode false _)]
  obtain ⟨s, code, hcode, -, rfl⟩ := hd
  unfold signedUnits at h ⊢
  cases s with
  | false =>
    simp only [Bool.false_eq_true, if_false, Int.ofNat_le] at h ⊢
    have hnearest := le_nearest_of_units_le one_pos (Nat.mul_le_mul_right one h)
    exact units_mono (Nat.le_min.mpr ⟨hnearest, hcode.le⟩)
  | true =>
    simp only [if_true, Bool.false_eq_true, if_false]
    omega

/-! ## The whole number below -/

theorem wholePart_eq (s : Bool) (code : Nat) :
    (if s then -(wholePart s code : Int) else wholePart s code) = signedUnits s code / one := by
  have hpos := one_pos
  unfold wholePart signedUnits
  -- what follows holds of any number of units in 1, and this one is too large to compute with
  generalize one = m at hpos ⊢
  generalize units code = n
  have hsign : (m : Int).sign = 1 := Int.sign_eq_one_of_pos (Int.natCast_pos.mpr hpos)
  have hdvd : (m : Int) ∣ n ↔ n % m = 0 := by
    rw [Int.natCast_dvd_natCast, Nat.dvd_iff_mod_eq_zero]
  cases s with
  | false => simp
  | true =>
    simp only [if_true, Int.neg_ediv, hsign, hdvd]
    by_cases hfraction : n % m = 0
    · simp [hfraction]
    · simp [hfraction]
      omega

theorem floor_bounds {s : Bool} {code : Nat} (h : units code % one ≠ 0) :
    -0x10000000000000 ≤ signedUnits s code / one ∧ signedUnits s code / one < 0x10000000000000 := by
  have hone : (0 : Int) < one := Int.natCast_pos.mpr one_pos
  have hlt := lt_of_fraction h
  rw [Int.le_ediv_iff_mul_le hone, Int.ediv_lt_iff_lt_mul hone]
  unfold signedUnits
  split <;> omega

theorem natAbs_mul_one (n : Int) : (n * one).natAbs = n.natAbs * one := by
  rw [Int.natAbs_mul, Int.natAbs_natCast]

theorem emod_eq_zero_of_mod {s : Bool} {code : Nat} (h : units code % one = 0) :
    signedUnits s code % one = 0 := by
  have hdvd : (one : Int) ∣ units code := Int.natCast_dvd_natCast.mpr (Nat.dvd_of_mod_eq_zero h)
  unfold signedUnits
  split
  · exact Int.emod_eq_zero_of_dvd (Int.dvd_neg.mpr hdvd)
  · exact Int.emod_eq_zero_of_dvd hdvd

/-- The whole number below a double is a double. -/
theorem isMagnitude_floor (hd : d.Counts v) : IsMagnitude (v / one * one).natAbs := by
  obtain ⟨s, code, hcode, rfl, rfl⟩ := hd
  by_cases hfraction : units code % one = 0
  · rw [Int.ediv_mul_cancel (Int.dvd_of_emod_eq_zero (emod_eq_zero_of_mod hfraction)),
      natAbs_signedUnits]
    exact isMagnitude_units hcode
  · have hbounds := floor_bounds (s := s) hfraction
    rw [natAbs_mul_one]
    apply isMagnitude_whole
    omega

theorem counts_floor (hd : d.Counts v) : d.floor.Counts (v / one * one) := by
  have hmagnitude := isMagnitude_floor hd
  obtain ⟨s, code, hcode, rfl, rfl⟩ := hd
  have hwhole := wholePart_eq s code
  have hnatAbs : (signedUnits s code / one).natAbs = wholePart s code := by
    rw [← hwhole]
    split <;> omega
  rw [natAbs_mul_one, hnatAbs] at hmagnitude
  have hcounts := counts_ofRatio Nat.one_pos hmagnitude (Nat.mul_one _).symm s
  have hsigned : (if s then -((wholePart s code * one : Nat) : Int)
      else (wholePart s code * one : Nat)) = signedUnits s code / one * one := by
    rw [← hwhole, ite_mul, Int.neg_mul, Int.natCast_mul]
  rwa [hsigned] at hcounts

/-! ## What is left above it -/

theorem counts_half : ∃ h, half.Counts h ∧ 2 * h = one := by
  refine ⟨units 0x3FE0000000000000, ⟨false, 0x3FE0000000000000, by decide, ?_, rfl⟩, ?_⟩
  · decide +kernel
  · decide +kernel

theorem rest_eq (v : Int) : v + -(v / one * one) = v % one := by
  rw [Int.emod_def, Int.mul_comm (one : Int)]
  rfl

/-- Less than a half is left only of a number that is not smaller: of a small negative number more
is left. -/
theorem natAbs_emod_le {m : Int} (hm : 0 < m) (h : 2 * (v % m) < m) :
    (v % m).natAbs ≤ v.natAbs := by
  have hnonneg := Int.emod_nonneg v hm.ne'
  have hsum := Int.mul_ediv_add_emod v m
  by_cases hwhole : 0 ≤ v / m
  · have := Int.mul_nonneg hm.le hwhole
    omega
  · have := Int.mul_le_mul_of_nonneg_left (show v / m ≤ -1 by omega) hm.le
    omega

theorem pow_shift_dvd_rest {s : Bool} {code : Nat} (h : units code % one ≠ 0) :
    Nat.pow 2 (shift code) ∣ (signedUnits s code % one).natAbs := by
  have hplace : ((Nat.pow 2 (shift code) : Nat) : Int) ∣ signedUnits s code := by
    rw [Int.natCast_dvd, natAbs_signedUnits]
    exact Nat.dvd_mul_left _ _
  have hparts : ((Nat.pow 2 (shift code) : Nat) : Int) ∣ one :=
    Int.natCast_dvd_natCast.mpr (pow_shift_dvd_one h)
  rw [← Int.natCast_dvd, Int.emod_def]
  exact Int.dvd_sub hplace (Int.dvd_mul_of_dvd_left hparts)

/-- What is left is a double itself when it is less than a half. -/
theorem isMagnitude_rest (hd : d.Counts v) (h : 2 * (v % one) < one) :
    IsMagnitude (v % one).natAbs := by
  obtain ⟨s, code, hcode, rfl, rfl⟩ := hd
  by_cases hfraction : units code % one = 0
  · rw [emod_eq_zero_of_mod hfraction]
    exact ⟨0, by decide, rfl⟩
  · have hle := natAbs_emod_le (Int.natCast_pos.mpr one_pos) h
    rw [natAbs_signedUnits] at hle
    exact isMagnitude_of_dvd hcode hle (pow_shift_dvd_rest hfraction)

/-- The test for a half is exact, whether or not what is left was rounded. -/
theorem half_le_rest_iff (hd : d.Counts v) :
    half.le (d.sub d.floor) = true ↔ (one : Int) ≤ 2 * (v % one) := by
  obtain ⟨h, hhalf, hone⟩ := counts_half
  have hfloor := counts_neg (counts_floor hd)
  by_cases hsmall : 2 * (v % one) < one
  · have hrest : (d.sub d.floor).Counts (v % one) := by
      have hmagnitude := isMagnitude_rest hd hsmall
      rw [← rest_eq] at hmagnitude ⊢
      exact counts_add hd hfloor hmagnitude
    rw [le_iff hhalf.place?_eq hrest.place?_eq]
    omega
  · -- the difference may be rounded here, but no more than down to a half
    have hpos : (0 : Int) < one := Int.natCast_pos.mpr one_pos
    have hrest : d.sub d.floor = ofRatio false (v % one).natAbs one := by
      have hadd := add_eq_ofRatio hd hfloor (by rw [rest_eq]; omega)
      rw [rest_eq, decide_eq_false (by omega)] at hadd
      exact hadd
    rw [hrest, le_ofRatio hhalf (by omega)]
    simp only [true_iff]
    omega

/-! ## The nearest whole number -/

theorem counts_ofInt {i : Int} (h : IsMagnitude (i.natAbs * one)) : (ofInt i).Counts (i * one) := by
  have hcounts := counts_ofRatio Nat.one_pos h (Nat.mul_one _).symm (decide (i < 0))
  rw [Int.natCast_mul, ← Int.neg_mul, ← ite_mul, signed_natAbs] at hcounts
  exact hcounts

theorem isMagnitude_next (hd : d.Counts v) (h : v % one ≠ 0) :
    IsMagnitude ((v / one + 1) * one).natAbs := by
  obtain ⟨s, code, hcode, rfl, rfl⟩ := hd
  have hbounds := floor_bounds (s := s) (mt emod_eq_zero_of_mod h)
  rw [natAbs_mul_one]
  apply isMagnitude_whole
  omega

/-- A whole number is the nearest one, a tie upward, when it is at most a half above and less than a
half below. -/
theorem nearest_of_between {q : Int} (hle : 2 * (one * q) ≤ 2 * v + one)
    (hlt : 2 * v + one < 2 * (one * q) + 2 * one) : (2 * v + one) / (2 * one) = q := by
  have hone : (0 : Int) < 2 * one := by
    have hpos := Int.natCast_pos.mpr one_pos
    omega
  have hunique := Int.ediv_emod_unique (a := 2 * v + one) (b := 2 * one) (q := q)
    (r := 2 * v + one - 2 * (one * q)) hone
  refine (hunique.mpr ⟨?_, by omega, by omega⟩).1
  ring

theorem nearest_of_half_le (h : (one : Int) ≤ 2 * (v % one)) :
    (2 * v + one) / (2 * one) = v / one + 1 := by
  have hsum := Int.mul_ediv_add_emod v one
  have hlt := Int.emod_lt_of_pos v (Int.natCast_pos.mpr one_pos)
  apply nearest_of_between
  · rw [Int.mul_add]
    omega
  · rw [Int.mul_add]
    omega

theorem nearest_of_lt_half (h : 2 * (v % one) < one) :
    (2 * v + one) / (2 * one) = v / one := by
  have hsum := Int.mul_ediv_add_emod v one
  have hnonneg := Int.emod_nonneg v (Int.natCast_pos.mpr one_pos).ne'
  apply nearest_of_between
  · omega
  · omega

/-- The steps together give the nearest whole number, a tie upward. -/
theorem counts_roundHalfUp (hd : d.Counts v) :
    d.roundHalfUp.Counts ((2 * v + one) / (2 * one) * one) := by
  have hfloor := counts_floor hd
  unfold roundHalfUp
  dsimp only
  by_cases hhalf : (one : Int) ≤ 2 * (v % one)
  · have hone : (0 : Int) < one := Int.natCast_pos.mpr one_pos
    have hunit : (ofInt 1).Counts (1 * one) := counts_ofInt (isMagnitude_whole (by decide))
    have hnext := isMagnitude_next hd (by omega)
    rw [Int.add_mul] at hnext
    rw [if_pos ((half_le_rest_iff hd).mpr hhalf), nearest_of_half_le hhalf, Int.add_mul]
    exact counts_add hfloor hunit hnext
  · rw [if_neg (mt (half_le_rest_iff hd).mp hhalf), nearest_of_lt_half (by omega)]
    exact hfloor

/-! ## Integers of 64 bits -/

theorem counts_minValue : (ofInt Int64.minValue.toInt).Counts (-0x8000000000000000 * one) := by
  have hleast : Int64.minValue.toInt = -0x8000000000000000 := by decide
  have hmagnitude : IsMagnitude ((-0x8000000000000000 : Int).natAbs * one) :=
    ⟨0x43E0000000000000, by decide, by decide +kernel⟩
  rw [hleast]
  exact counts_ofInt hmagnitude

/-- The greatest integer of 64 bits is not a double, and the nearest double is the next integer. -/
theorem counts_maxValue : (ofInt Int64.maxValue.toInt).Counts (0x8000000000000000 * one) :=
  ⟨false, 0x43E0000000000000, by decide, by decide +kernel, by decide +kernel⟩

theorem fitsInt64_iff {n : Int} (hd : d.Counts (n * one)) :
    d.fitsInt64 = true ↔ -0x8000000000000000 ≤ n ∧ n < 0x8000000000000000 := by
  have hone : (0 : Int) < one := Int.natCast_pos.mpr one_pos
  unfold fitsInt64
  rw [Bool.and_eq_true, le_iff counts_minValue.place?_eq hd.place?_eq,
    lt_iff hd.place?_eq counts_maxValue.place?_eq]
  simp only [Int.mul_le_mul_right hone, Int.mul_lt_mul_right hone]

theorem toInt64_eq {n : Int} (hd : d.Counts (n * one)) : d.toInt64 = Int64.ofIntClamp n := by
  obtain ⟨s, code, hcode, rfl, hn⟩ := hd
  have hone : (one : Int) ≠ 0 := Int.natCast_ne_zero.mpr one_pos.ne'
  have hunits : units code = n.natAbs * one := by
    rw [← natAbs_signedUnits s, hn, natAbs_mul_one]
  unfold signedUnits at hn
  rw [hunits, Int.natCast_mul, ← Int.neg_mul, ← ite_mul] at hn
  unfold toInt64
  dsimp only
  rw [hunits, Nat.mul_div_cancel _ one_pos, Int.eq_of_mul_eq_mul_right hone hn]

theorem ofIntClamp_of_lt {n : Int} (h : n < -0x8000000000000000) :
    Int64.ofIntClamp n = Int64.minValue := by
  unfold Int64.ofIntClamp
  rw [dif_neg]
  rw [Int64.toInt_minValue]
  omega

theorem ofIntClamp_of_le {n : Int} (h : 0x8000000000000000 ≤ n) :
    Int64.ofIntClamp n = Int64.maxValue := by
  unfold Int64.ofIntClamp
  rw [dif_pos, dif_neg]
  · rw [Int64.toInt_maxValue]
    omega
  · rw [Int64.toInt_minValue]
    omega

/-! ## Exact values -/

/-- The rational number that a finite double is. -/
def exact (negative : Bool) (code : Nat) : ℚ :=
  signedUnits negative code / one

theorem floor_exact_add_half (s : Bool) (code : Nat) :
    ⌊exact s code + 1 / 2⌋ = (2 * signedUnits s code + one) / (2 * one) := by
  have hone : (one : ℚ) ≠ 0 := Nat.cast_ne_zero.mpr one_pos.ne'
  have hsum : exact s code + 1 / 2 =
      ((2 * signedUnits s code + one : Int) : ℚ) / ((2 * one : Nat) : ℚ) := by
    rw [exact, div_add_div _ _ hone two_ne_zero]
    push_cast
    ring
  rw [hsum, Rat.floor_intCast_div_natCast]
  simp only [Nat.cast_mul, Nat.cast_ofNat]

/-! ## Doubles without a whole number -/

theorem le_nan (d : Double) : d.le nan = false := by
  unfold le
  cases d.place? <;> rfl

theorem roundHalfUp_nan : nan.roundHalfUp = nan := by
  unfold roundHalfUp
  dsimp only
  rw [show nan.sub nan.floor = nan from rfl, le_nan]
  rfl

theorem fitsInt64_nan : nan.fitsInt64 = false := by
  unfold fitsInt64
  rw [le_nan, Bool.false_and]

/-- Nothing is left above an infinity, not even zero. -/
theorem roundHalfUp_infinite (s : Bool) : (infinite s).roundHalfUp = infinite s := by
  have hrest : (infinite s).sub (infinite s).floor = nan := by
    cases s <;> rfl
  unfold roundHalfUp
  dsimp only
  rw [hrest, le_nan]
  rfl

theorem fitsInt64_infinite (s : Bool) : (infinite s).fitsInt64 = false := by
  cases s <;> decide +kernel

end Double

namespace Value

theorem round_of_fits {policy : OverflowPolicy} {d : Double}
    (h : d.roundHalfUp.fitsInt64 = true) :
    round policy (double d) = .ok (integer d.roundHalfUp.toInt64) := by
  unfold round
  dsimp only
  rw [if_pos h]

theorem round_fail {d : Double} (h : d.roundHalfUp.fitsInt64 = false) :
    round .fail (double d) = .error (.overflow "round" (double d).text) := by
  unfold round
  dsimp only
  rw [h]
  rfl

theorem round_saturate (d : Double) :
    round .saturate (double d) = .ok (integer d.roundHalfUp.toInt64) := by
  unfold round
  dsimp only
  split <;> rfl

end Value

open Double

/-- A double is rounded to the integer that is nearest to its exact value, a tie upward. Whether
that integer has 64 bits is decided exactly, too. -/
theorem rounding_goes_to_the_exact_nearest_integer :
    (∀ (negative : Bool) (code : Nat) (h : code < 0x7FF0000000000000),
      let d := Double.finite negative code h
      let n := ⌊exact negative code + 1 / 2⌋
      (-0x8000000000000000 ≤ n ∧ n < 0x8000000000000000 →
        ∃ i : Int64, i.toInt = n ∧ ∀ policy, Value.round policy (.double d) = .ok (.integer i)) ∧
      (n < -0x8000000000000000 ∨ 0x8000000000000000 ≤ n →
        Value.round .fail (.double d) = .error (.overflow "round" (Value.double d).text)) ∧
      (0x8000000000000000 ≤ n →
        Value.round .saturate (.double d) = .ok (.integer Int64.maxValue)) ∧
      (n < -0x8000000000000000 →
        Value.round .saturate (.double d) = .ok (.integer Int64.minValue))) ∧
    (Value.round .fail (.double .nan) = .error (.overflow "round" (Value.double .nan).text) ∧
      Value.round .saturate (.double .nan) = .ok (.integer 0)) ∧
    (∀ negative : Bool,
      Value.round .fail (.double (.infinite negative)) =
          .error (.overflow "round" (Value.double (.infinite negative)).text) ∧
        Value.round .saturate (.double (.infinite negative)) =
          .ok (.integer (if negative then Int64.minValue else Int64.maxValue))) ∧
    ∀ (policy : OverflowPolicy) (i : Int64), Value.round policy (.integer i) = .ok (.integer i) := by
  refine ⟨fun negative code h => ?_, ⟨?_, ?_⟩, fun negative => ⟨?_, ?_⟩, fun policy i => rfl⟩
  · have hcounts := counts_roundHalfUp ⟨negative, code, h, rfl, rfl⟩
    rw [← floor_exact_add_half] at hcounts
    dsimp only
    generalize ⌊exact negative code + 1 / 2⌋ = n at hcounts ⊢
    have hfits := fitsInt64_iff hcounts
    refine ⟨fun hn => ?_, fun hn => ?_, fun hn => ?_, fun hn => ?_⟩
    · refine ⟨Int64.ofIntClamp n, Int64.toInt_ofIntClamp ?_ ?_, fun policy => ?_⟩
      · rw [Int64.toInt_minValue]
        omega
      · rw [Int64.toInt_maxValue]
        omega
      · rw [Value.round_of_fits (hfits.mpr hn), toInt64_eq hcounts]
    · apply Value.round_fail
      rw [Bool.eq_false_iff]
      intro hfit
      have := hfits.mp hfit
      omega
    · rw [Value.round_saturate, toInt64_eq hcounts, ofIntClamp_of_le hn]
    · rw [Value.round_saturate, toInt64_eq hcounts, ofIntClamp_of_lt hn]
  · apply Value.round_fail
    rw [roundHalfUp_nan, fitsInt64_nan]
  · rw [Value.round_saturate, roundHalfUp_nan]
    rfl
  · apply Value.round_fail
    rw [roundHalfUp_infinite, fitsInt64_infinite]
  · rw [Value.round_saturate, roundHalfUp_infinite]
    rfl

/-- The sum of this double and a half is not a double, and the nearest double to it is 1. -/
theorem the_double_below_a_half_rounds_to_zero :
    ⌊exact false 0x3FDFFFFFFFFFFFFF + 1 / 2⌋ = 0 ∧
      Value.round .fail (.double (.finite false 0x3FDFFFFFFFFFFFFF (by decide))) =
        .ok (.integer 0) := by
  have hfloor : ⌊exact false 0x3FDFFFFFFFFFFFFF + 1 / 2⌋ = 0 := by
    rw [floor_exact_add_half]
    decide +kernel
  obtain ⟨i, hi, hround⟩ := (rounding_goes_to_the_exact_nearest_integer.1 false
    0x3FDFFFFFFFFFFFFF (by decide)).1 (by rw [hfloor]; decide)
  rw [hfloor] at hi
  obtain rfl : i = 0 := Int64.toInt_inj.mp hi
  exact ⟨hfloor, hround .fail⟩

end Predefined
