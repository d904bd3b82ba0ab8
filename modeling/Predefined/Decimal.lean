-- Decimal digits: the digits of a number, the number that digits stand for, and how digits are
-- written and scanned. Numbers are printed and read here and nowhere else, so that every text with
-- a number in it agrees on what a digit is.
namespace Predefined

/-- A decimal digit. -/
abbrev Digit := Fin 10

namespace Digit

def zero : Digit := ⟨0, by decide⟩

/-- The character of a digit. -/
def char (d : Digit) : Char := Char.ofNat (48 + d.val)

/-- The digit of a character, for the ten ASCII digits only. -/
def ofChar? (c : Char) : Option Digit :=
  if h : 48 ≤ c.toNat ∧ c.toNat < 58 then some ⟨c.toNat - 48, by omega⟩ else none

end Digit

namespace Decimal

/-- The digits of `n`, most significant first. Zero has the one digit 0, and no other number
starts with it. -/
def digits (n : Nat) : List Digit :=
  go n []
where
  /-- The digits of `n` in front of `tail`. -/
  go (n : Nat) (tail : List Digit) : List Digit :=
    let last : Digit := ⟨n % 10, Nat.mod_lt n (by decide)⟩
    if n < 10 then last :: tail else go (n / 10) (last :: tail)

/-- Joins neighbouring digits of a base, least significant first, to digits of its square. -/
def joinPairs (base : Nat) : List Nat → List Nat
  | d :: e :: rest => (d + base * e) :: joinPairs base rest
  | ds => ds

/-- The number that digits of a base stand for, least significant first. Each step halves their
number, so that only a few products have large factors. -/
def joined : (bound base : Nat) → List Nat → Nat
  | 0, _, ds => ds.headD 0
  | _ + 1, _, [] => 0
  | _ + 1, _, [d] => d
  | bound + 1, base, ds => joined bound (base * base) (joinPairs base ds)

/-- The number that digits stand for, most significant first. -/
def value (ds : List Digit) : Nat :=
  joined ds.length 10 (ds.reverse.map (·.val))

/-- The number that digits of a base stand for, least significant first. -/
def inBase (base : Nat) (ds : List Nat) : Nat :=
  ds.foldr (fun d n => d + base * n) 0

theorem inBase_joinPairs (base : Nat) (ds : List Nat) :
    inBase (base * base) (joinPairs base ds) = inBase base ds := by
  fun_induction joinPairs base ds with
  | case1 d e rest ih =>
    simp only [inBase, List.foldr_cons] at *
    rw [ih, Nat.mul_add, Nat.mul_assoc, Nat.add_assoc]
  | case2 ds h =>
    match ds, h with
    | [], _ => rfl
    | [d], _ => simp [inBase]
    | d :: e :: rest, h => exact absurd rfl (h d e rest)

theorem length_joinPairs (base : Nat) (ds : List Nat) :
    (joinPairs base ds).length = (ds.length + 1) / 2 := by
  fun_induction joinPairs base ds with
  | case1 d e rest ih => simp only [List.length_cons, ih]; omega
  | case2 ds h =>
    match ds, h with
    | [], _ => rfl
    | [d], _ => simp
    | d :: e :: rest, h => exact absurd rfl (h d e rest)

theorem joined_eq_inBase (bound base : Nat) (ds : List Nat) (h : ds.length ≤ bound) :
    joined bound base ds = inBase base ds := by
  fun_induction joined bound base ds with
  | case1 base ds => simp_all [inBase]
  | case2 => rfl
  | case3 => simp [inBase]
  | case4 bound base ds h1 h2 ih =>
    rw [ih, inBase_joinPairs]
    rw [length_joinPairs]
    match ds, h1, h2 with
    | [], h1, _ => exact absurd rfl h1
    | [d], _, h2 => exact absurd rfl (h2 d)
    | d :: e :: rest, _, _ => simp only [List.length_cons] at h ⊢; omega

/-- Each digit more multiplies what stands before it by ten. -/
theorem value_eq_foldl (ds : List Digit) :
    value ds = ds.foldl (fun n d => 10 * n + d.val) 0 := by
  rw [value, joined_eq_inBase _ _ _ (by simp), inBase, List.foldr_map, List.foldr_reverse]
  simp only [Nat.add_comm]

/-- Digits as characters. -/
def chars (ds : List Digit) : List Char :=
  ds.map Digit.char

/-- The decimal text of a natural number. -/
def natChars (n : Nat) : List Char :=
  chars (digits n)

/-- The decimal text of an integer: a minus sign for a negative one, no plus sign, no padding. -/
def intChars (i : Int) : List Char :=
  if i < 0 then '-' :: natChars i.natAbs else natChars i.natAbs

def natText (n : Nat) : String :=
  String.ofList (natChars n)

def intText (i : Int) : String :=
  String.ofList (intChars i)

/-- The digits at the front of a text, and what follows them. -/
def scan : List Char → List Digit × List Char
  | [] => ([], [])
  | c :: rest =>
    match Digit.ofChar? c with
    | some d => let (ds, tail) := scan rest; (d :: ds, tail)
    | none => ([], c :: rest)

/-- Drops the zeros at the end of the digits of `n` and counts them. Zero has none to drop. -/
def stripZeros (n : Nat) : Nat × Nat :=
  if n ≠ 0 ∧ n % 10 = 0 then
    let (m, k) := stripZeros (n / 10)
    (m, k + 1)
  else (n, 0)
termination_by n

end Decimal

end Predefined
