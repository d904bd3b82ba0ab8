-- Digits read back. The digits of a number stand for that number and do not start with a zero, and
-- scanning the characters of digits gives the digits and goes on where they end. The characters are
-- those of the library, and nothing else is scanned as a digit.
import Mathlib.Tactic.Ring
import Predefined.Decimal

namespace Predefined

namespace Digit

@[simp] theorem ofChar?_char (d : Digit) : ofChar? d.char = some d := by
  revert d
  decide

/-- What a character of a digit is not. -/
theorem char_ne {c : Char} (h : ofChar? c = none) (d : Digit) : d.char ≠ c := by
  rintro rfl
  rw [ofChar?_char] at h
  cases h

theorem isDigit_char (d : Digit) : d.char.isDigit = true := by
  revert d
  decide

theorem toNat_char (d : Digit) : d.char.toNat - '0'.toNat = d.val := by
  revert d
  decide

theorem char_of_ofChar? {c : Char} {d : Digit} (h : ofChar? c = some d) : d.char = c := by
  unfold ofChar? at h
  split at h
  · rename_i hrange
    obtain rfl := Option.some.inj h
    have hcode : 48 + (c.toNat - 48) = c.toNat := by omega
    rw [char, hcode, Char.ofNat_toNat]
  · cases h

theorem exists_of_isDigit {c : Char} (h : c.isDigit = true) : ∃ d : Digit, d.char = c := by
  simp only [Char.isDigit, Bool.and_eq_true, decide_eq_true_eq] at h
  have hlow : 48 ≤ c.toNat := UInt32.le_iff_toNat_le.1 h.1
  have hhigh : c.toNat ≤ 57 := UInt32.le_iff_toNat_le.1 h.2
  have hrange : 48 ≤ c.toNat ∧ c.toNat < 58 := by omega
  have hread : ofChar? c = some ⟨c.toNat - 48, by omega⟩ := dif_pos hrange
  exact ⟨_, char_of_ofChar? hread⟩

end Digit

namespace Decimal

/-! ## Numbers -/

theorem foldl_go (n : Nat) (tail : List Digit) :
    (digits.go n tail).foldl (fun m d => 10 * m + d.val) 0 =
      tail.foldl (fun m d => 10 * m + d.val) n := by
  fun_induction digits.go n tail with
  | case1 n tail last h =>
    have hlast : last.val = n := Nat.mod_eq_of_lt h
    rw [List.foldl_cons, hlast, Nat.mul_zero, Nat.zero_add]
  | case2 n tail last h ih =>
    have hlast : 10 * (n / 10) + last.val = n := Nat.div_add_mod n 10
    rw [ih, List.foldl_cons, hlast]

@[simp] theorem value_digits (n : Nat) : value (digits n) = n := by
  rw [value_eq_foldl, digits, foldl_go]
  rfl

theorem foldl_eq (ds : List Digit) (n : Nat) :
    ds.foldl (fun m d => 10 * m + d.val) n = n * 10 ^ ds.length + value ds := by
  induction ds generalizing n with
  | nil => simp [value_eq_foldl]
  | cons d ds ih =>
    rw [value_eq_foldl, List.foldl_cons, List.foldl_cons, ih, ih (10 * 0 + d.val),
      List.length_cons]
    ring

theorem value_append (xs ys : List Digit) :
    value (xs ++ ys) = value xs * 10 ^ ys.length + value ys := by
  rw [value_eq_foldl, List.foldl_append, foldl_eq, ← value_eq_foldl]

theorem value_replicate_zero (n : Nat) : value (List.replicate n Digit.zero) = 0 := by
  induction n with
  | zero => rfl
  | succ n ih =>
    have hzero : value [Digit.zero] = 0 := rfl
    rw [List.replicate_succ, ← List.singleton_append, value_append, ih, hzero, Nat.zero_mul]

/-! ## Shape -/

theorem go_ne_nil (n : Nat) (tail : List Digit) : digits.go n tail ≠ [] := by
  fun_induction digits.go n tail with
  | case1 => exact List.cons_ne_nil _ _
  | case2 n tail last h ih => exact ih

theorem digits_ne_nil (n : Nat) : digits n ≠ [] :=
  go_ne_nil n []

theorem digits_of_lt {n : Nat} (h : n < 10) : digits n = [⟨n, h⟩] := by
  rw [digits, digits.go, if_pos h]
  simp [Nat.mod_eq_of_lt h]

theorem head_go {n : Nat} (h : n ≠ 0) (tail : List Digit) {d : Digit} {ds : List Digit}
    (hgo : digits.go n tail = d :: ds) : d ≠ Digit.zero := by
  fun_induction digits.go n tail with
  | case1 n tail last hlt =>
    obtain ⟨rfl, -⟩ := List.cons.inj hgo
    intro hzero
    have hlast : n % 10 = 0 := congrArg Fin.val hzero
    omega
  | case2 n tail last hge ih => exact ih (by omega) hgo

/-- Only zero starts with a zero. -/
theorem head_digits {n : Nat} (h : n ≠ 0) {d : Digit} {ds : List Digit}
    (hdigits : digits n = d :: ds) : d ≠ Digit.zero :=
  head_go h [] hdigits

/-! ## Characters -/

/-- A text that does not go on with a digit. -/
def StopsDigits (s : List Char) : Prop :=
  ∀ c ∈ s.head?, Digit.ofChar? c = none

theorem scan_of_stopsDigits {s : List Char} (h : StopsDigits s) : scan s = ([], s) := by
  cases s with
  | nil => rfl
  | cons c s =>
    have hc : Digit.ofChar? c = none := h c rfl
    simp [scan, hc]

/-- Scanning takes all the digits that were written and nothing else. -/
theorem scan_chars_append (ds : List Digit) {rest : List Char} (h : StopsDigits rest) :
    scan (chars ds ++ rest) = (ds, rest) := by
  induction ds with
  | nil => exact scan_of_stopsDigits h
  | cons d ds ih =>
    have hcons : chars (d :: ds) ++ rest = d.char :: (chars ds ++ rest) := rfl
    rw [hcons, scan, Digit.ofChar?_char, ih]

theorem scan_chars (ds : List Digit) : scan (chars ds) = (ds, []) := by
  have hstop : StopsDigits [] := by simp [StopsDigits]
  have h := scan_chars_append ds hstop
  rwa [List.append_nil] at h

theorem natChars_eq_cons (n : Nat) :
    ∃ (d : Digit) (ds : List Digit), natChars n = d.char :: chars ds ∧ digits n = d :: ds := by
  obtain ⟨d, ds, h⟩ := List.exists_cons_of_ne_nil (digits_ne_nil n)
  exact ⟨d, ds, by rw [natChars, h]; rfl, h⟩

/-- Scanning takes a text apart and leaves nothing out. -/
theorem chars_scan_append (s : List Char) : chars (scan s).1 ++ (scan s).2 = s := by
  induction s with
  | nil => rfl
  | cons c s ih =>
    rw [scan]
    rcases hc : Digit.ofChar? c with _ | d
    · rfl
    · have hchar := Digit.char_of_ofChar? hc
      show d.char :: (chars (scan s).1 ++ (scan s).2) = c :: s
      rw [ih, hchar]

/-- A text is scanned to its end when it has digits only. -/
theorem eq_chars_of_scan {s : List Char} {ds : List Digit} (h : scan s = (ds, [])) :
    s = chars ds := by
  have happend := chars_scan_append s
  rw [h, List.append_nil] at happend
  exact happend.symm

/-- The library reads characters of digits as the same number. -/
theorem ofDigitChars_chars (ds : List Digit) :
    Nat.ofDigitChars 10 (chars ds) 0 = value ds := by
  rw [value_eq_foldl, Nat.ofDigitChars_eq_foldl, chars, List.foldl_map]
  simp only [Digit.toNat_char]

end Decimal

end Predefined
