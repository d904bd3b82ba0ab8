-- Texts that are read as integers: a sign or none, and then digits, with as many zeros in front as
-- one likes. The number must have 64 bits, and the lowest one has no positive counterpart. The
-- texts of doubles, truth values, arrays and objects all have a character that is neither a sign
-- nor a digit, so of all values without an integer in them only strings are read.
import Predefined.Proofs.Conversions

namespace Predefined

/-! ## Texts of integers -/

/-- A text of ASCII digits, one at least. -/
def IsDigits (s : List Char) : Prop :=
  s ≠ [] ∧ ∀ c ∈ s, c.isDigit = true

/-- What digits stand for after a sign or none. -/
inductive IsIntegerText : List Char → Int → Prop
  | unsigned {s : List Char} (h : IsDigits s) : IsIntegerText s (Nat.ofDigitChars 10 s 0)
  | plus {s : List Char} (h : IsDigits s) : IsIntegerText ('+' :: s) (Nat.ofDigitChars 10 s 0)
  | minus {s : List Char} (h : IsDigits s) : IsIntegerText ('-' :: s) (-Nat.ofDigitChars 10 s 0)

/-- The integer that a value is, or that its string is a text of. -/
inductive Value.Spells : Value → Int → Prop
  | integer (i : Int64) : Spells (.integer i) i.toInt
  | string {s : String} {n : Int} (h : IsIntegerText s.toList n) : Spells (.string s) n

/-! ## Digits and signs -/

theorem isDigits_chars {ds : List Digit} (h : ds ≠ []) : IsDigits (Decimal.chars ds) := by
  constructor
  · simpa [Decimal.chars] using h
  · intro c hc
    obtain ⟨d, -, rfl⟩ := List.mem_map.1 hc
    exact d.isDigit_char

theorem exists_chars_of_isDigit {s : List Char} (h : ∀ c ∈ s, c.isDigit = true) :
    ∃ ds : List Digit, s = Decimal.chars ds := by
  induction s with
  | nil => exact ⟨[], rfl⟩
  | cons c s ih =>
    obtain ⟨d, rfl⟩ := Digit.exists_of_isDigit (h c List.mem_cons_self)
    obtain ⟨ds, rfl⟩ := ih fun e he => h e (List.mem_cons_of_mem _ he)
    exact ⟨d :: ds, rfl⟩

theorem IsDigits.exists_chars {s : List Char} (h : IsDigits s) :
    ∃ ds : List Digit, ds ≠ [] ∧ s = Decimal.chars ds := by
  obtain ⟨ds, rfl⟩ := exists_chars_of_isDigit h.2
  refine ⟨ds, ?_, rfl⟩
  rintro rfl
  exact h.1 rfl

theorem not_isDigits_cons {c : Char} (hc : c.isDigit = false) (r : List Char) :
    ¬ IsDigits (c :: r) := by
  intro h
  have hdigit := h.2 c List.mem_cons_self
  rw [hc] at hdigit
  cases hdigit

/-- A text of an integer has no characters but signs and digits. -/
theorem IsIntegerText.sign_or_digit {s : List Char} {n : Int} (h : IsIntegerText s n) :
    ∀ c ∈ s, c = '+' ∨ c = '-' ∨ c.isDigit = true := by
  intro c hc
  cases h with
  | unsigned h => exact Or.inr (Or.inr (h.2 c hc))
  | plus h =>
    rcases List.mem_cons.1 hc with rfl | hc
    · exact Or.inl rfl
    · exact Or.inr (Or.inr (h.2 c hc))
  | minus h =>
    rcases List.mem_cons.1 hc with rfl | hc
    · exact Or.inr (Or.inl rfl)
    · exact Or.inr (Or.inr (h.2 c hc))

namespace Value

/-! ## Reading a text -/

/-- Takes the sign off a text, and says whether it was a minus. -/
def takeSign : List Char → Bool × List Char
  | '-' :: r => (true, r)
  | '+' :: r => (false, r)
  | r => (false, r)

/-- Reads digits behind a sign, when the number has at most 64 bits. -/
def signedInt64? (negative : Bool) (body : List Char) : Option Int64 :=
  match Decimal.scan body with
  | ([], _) => none
  | (ds, []) =>
    let n : Int := if negative then -(Decimal.value ds : Int) else Decimal.value ds
    if -0x8000000000000000 ≤ n ∧ n < 0x8000000000000000 then some (Int64.ofInt n) else none
  | _ => none

theorem int64OfText?_eq (s : String) :
    int64OfText? s = signedInt64? (takeSign s.toList).1 (takeSign s.toList).2 :=
  rfl

/-- Digits are read when the number with its sign is an integer of 64 bits, and as that one. -/
theorem signedInt64?_eq_some {negative : Bool} {body : List Char} {i : Int64} :
    signedInt64? negative body = some i ↔
      IsDigits body ∧
        i.toInt = if negative then -(Nat.ofDigitChars 10 body 0 : Int)
          else Nat.ofDigitChars 10 body 0 := by
  unfold signedInt64?
  constructor
  · intro h
    split at h
    · cases h
    · rename_i ds hne hscan
      obtain rfl := Decimal.eq_chars_of_scan hscan
      rw [Decimal.ofDigitChars_chars]
      dsimp only at h
      generalize (if negative then -(Decimal.value ds : Int) else Decimal.value ds) = n at h ⊢
      by_cases hrange : -0x8000000000000000 ≤ n ∧ n < 0x8000000000000000
      · rw [if_pos hrange] at h
        obtain rfl := Option.some.inj h
        exact ⟨isDigits_chars hne, Int64.toInt_ofInt_of_le hrange.1 hrange.2⟩
      · rw [if_neg hrange] at h
        cases h
    · cases h
  · rintro ⟨hdigits, hvalue⟩
    obtain ⟨ds, hne, rfl⟩ := hdigits.exists_chars
    obtain ⟨d, ds, rfl⟩ := List.exists_cons_of_ne_nil hne
    have hlow : -0x8000000000000000 ≤ i.toInt := i.le_toInt
    have hhigh : i.toInt < 0x8000000000000000 := i.toInt_lt
    rw [Decimal.ofDigitChars_chars] at hvalue
    simp only [Decimal.scan_chars, ← hvalue, Int64.ofInt_toInt]
    rw [if_pos ⟨hlow, hhigh⟩]

/-- A string is read as an integer of 64 bits when it is a text of it. -/
theorem int64OfText?_eq_some {s : String} {i : Int64} :
    int64OfText? s = some i ↔ IsIntegerText s.toList i.toInt := by
  rw [int64OfText?_eq, signedInt64?_eq_some]
  generalize i.toInt = n
  fun_cases takeSign s.toList with
  | case1 r =>
    rw [if_pos rfl]
    constructor
    · rintro ⟨h, rfl⟩
      exact .minus h
    · intro h
      cases h with
      | unsigned h => exact absurd h (not_isDigits_cons rfl r)
      | minus h => exact ⟨h, rfl⟩
  | case2 r =>
    rw [if_neg Bool.false_ne_true]
    constructor
    · rintro ⟨h, rfl⟩
      exact .plus h
    · intro h
      cases h with
      | unsigned h => exact absurd h (not_isDigits_cons rfl r)
      | plus h => exact ⟨h, rfl⟩
  | case3 r hminus hplus =>
    rw [if_neg Bool.false_ne_true]
    constructor
    · rintro ⟨h, rfl⟩
      exact .unsigned h
    · intro h
      cases h with
      | unsigned h => exact ⟨h, rfl⟩
      | plus h => exact absurd rfl (hplus _)
      | minus h => exact absurd rfl (hminus _)

/-! ## Texts of other values -/

/-- One character that is neither a sign nor a digit is enough. -/
theorem int64OfText?_eq_none {s : String} {c : Char} (hmem : c ∈ s.toList)
    (hc : c ≠ '+' ∧ c ≠ '-' ∧ c.isDigit = false) : int64OfText? s = none := by
  rcases hread : int64OfText? s with _ | i
  · rfl
  · obtain ⟨hplus, hminus, hdigit⟩ := hc
    rcases (int64OfText?_eq_some.1 hread).sign_or_digit c hmem with h | h | h
    · exact absurd h hplus
    · exact absurd h hminus
    · rw [hdigit] at h
      cases h

/-- A double is written with a point or by a name. -/
theorem int64OfText?_double (d : Double) : int64OfText? d.text = none := by
  cases d with
  | nan => exact int64OfText?_eq_none (c := 'N') (by decide) (by decide)
  | infinite negative =>
    refine int64OfText?_eq_none (c := 'I') ?_ (by decide)
    cases negative <;> decide
  | finite negative code hcode =>
    refine int64OfText?_eq_none (c := '.') ?_ (by decide)
    obtain ⟨d, ⟨whole, fraction, -, hchars, -⟩, -⟩ := Double.exists_isPointed code
    rw [Double.text, String.toList_ofList, Double.chars, hchars]
    simp

theorem int64OfText?_array (elements : List Json) :
    int64OfText? (Json.array elements).compact = none := by
  refine int64OfText?_eq_none (c := '[') ?_ (by decide)
  rw [Json.compact, Json.Tree.compact, String.toList_ofList]
  cases elements with
  | nil => exact List.mem_cons_self
  | cons e es => exact List.mem_cons_self

theorem int64OfText?_object (members : List (String × Json)) :
    int64OfText? (Json.object members).compact = none := by
  refine int64OfText?_eq_none (c := '{') ?_ (by decide)
  rw [Json.compact, Json.Tree.compact, String.toList_ofList]
  cases members with
  | nil => exact List.mem_cons_self
  | cons m ms => exact List.mem_cons_self

/-- Only integers and strings have texts of integers. -/
theorem int64OfText?_text {v : Value} (hinteger : v.isInteger = false)
    (hstring : v.isString = false) : int64OfText? v.text = none := by
  cases v with
  | integer i => cases hinteger
  | string s => cases hstring
  | null => exact int64OfText?_eq_none (c := 'n') (by decide) (by decide)
  | boolean b =>
    refine int64OfText?_eq_none (c := 'e') ?_ (by decide)
    cases b <;> decide
  | double d => exact int64OfText?_double d
  | array elements => exact int64OfText?_array elements
  | object members => exact int64OfText?_object members

/-! ## Conversion -/

theorem toInteger_of_none {v : Value} (hinteger : v.isInteger = false)
    (hnone : int64OfText? v.text = none) : v.toInteger = .error (.conversion "integer") := by
  cases v with
  | integer i => cases hinteger
  | _ => simp only [toInteger, hnone]

theorem toInteger_of_spells {v : Value} {i : Int64} (h : v.Spells i.toInt) :
    v.toInteger = .ok (.integer i) := by
  generalize hn : i.toInt = n at h
  cases h with
  | integer j =>
    rw [Int64.toInt_inj.1 hn]
    rfl
  | @string s n h => simp only [toInteger, text, int64OfText?_eq_some.2 (hn ▸ h)]

theorem toInteger_of_forall_not_spells {v : Value} (h : ∀ i : Int64, ¬ v.Spells i.toInt) :
    v.toInteger = .error (.conversion "integer") := by
  cases v with
  | integer i => exact absurd (.integer i) (h i)
  | string s =>
    refine toInteger_of_none rfl ?_
    rcases hread : int64OfText? s with _ | i
    · exact hread
    · exact absurd (.string (int64OfText?_eq_some.1 hread)) (h i)
  | _ => exact toInteger_of_none rfl (int64OfText?_text rfl rfl)

theorem spells_of_ok {v w : Value} (h : v.toInteger = .ok w) :
    ∃ i : Int64, w = .integer i ∧ v.Spells i.toInt := by
  by_cases hspells : ∃ i : Int64, v.Spells i.toInt
  · obtain ⟨i, hi⟩ := hspells
    exact ⟨i, Except.ok.inj (h.symm.trans (toInteger_of_spells hi)), hi⟩
  · rw [toInteger_of_forall_not_spells (not_exists.1 hspells)] at h
    cases h

end Value

/-- An integer is itself, and a string is read when what it spells has 64 bits with a sign. Every
other value is refused, a double that is a whole number as well. -/
theorem integer_reads_integers_and_their_texts_only (v : Value) :
    (∀ w, v.toInteger = .ok w ↔
      ∃ n : Int, v.Spells n ∧ -0x8000000000000000 ≤ n ∧ n ≤ 0x7FFFFFFFFFFFFFFF ∧
        ∃ i : Int64, i.toInt = n ∧ w = .integer i) ∧
    (∀ e, v.toInteger = .error e → e = .conversion "integer") ∧
    (v.isInteger = false → v.isString = false →
      v.toInteger = .error (.conversion "integer")) := by
  refine ⟨fun w => ⟨fun h => ?_, ?_⟩, fun e h => ?_, fun hinteger hstring => ?_⟩
  · obtain ⟨i, rfl, hspells⟩ := Value.spells_of_ok h
    have hlow := i.le_toInt
    have hhigh := i.toInt_lt
    exact ⟨i.toInt, hspells, hlow, Int.le_of_lt_add_one hhigh, i, rfl, rfl⟩
  · rintro ⟨n, hspells, -, -, i, rfl, rfl⟩
    exact Value.toInteger_of_spells hspells
  · by_cases hspells : ∃ i : Int64, v.Spells i.toInt
    · obtain ⟨i, hspells⟩ := hspells
      rw [Value.toInteger_of_spells hspells] at h
      cases h
    · rw [Value.toInteger_of_forall_not_spells (not_exists.1 hspells)] at h
      exact (Except.error.inj h).symm
  · exact Value.toInteger_of_none hinteger (Value.int64OfText?_text hinteger hstring)

/-- The lowest number is read with zeros in front, and its positive counterpart is not. -/
theorem integer_reads_the_lowest_number_but_not_its_negation :
    (Value.string "-009223372036854775808").toInteger = .ok (.integer Int64.minValue) ∧
    (∀ w, (Value.string "+9223372036854775808").toInteger ≠ .ok w) ∧
    (Value.double (Double.ofInt 3)).toInteger = .error (.conversion "integer") := by
  have hdigits : IsDigits "009223372036854775808".toList :=
    ⟨by decide, List.all_eq_true.1 (by decide)⟩
  have hlowest : Value.Spells (.string "-009223372036854775808") (-0x8000000000000000) :=
    .string (.minus hdigits)
  have hhighest : ∀ n : Int, Value.Spells (.string "+9223372036854775808") n →
      n = 0x8000000000000000 := by
    intro n h
    have htext : "+9223372036854775808".toList = '+' :: "9223372036854775808".toList := rfl
    cases h with
    | string h =>
      rw [htext] at h
      cases h with
      | unsigned h => exact absurd h (not_isDigits_cons rfl _)
      | plus h => decide
  refine ⟨?_, fun w h => ?_, ?_⟩
  · exact ((integer_reads_integers_and_their_texts_only _).1 _).2
      ⟨_, hlowest, by decide, by decide, _, by decide, rfl⟩
  · obtain ⟨n, hspells, -, hhigh, -⟩ := ((integer_reads_integers_and_their_texts_only _).1 w).1 h
    rw [hhighest n hspells] at hhigh
    exact absurd hhigh (by decide)
  · exact (integer_reads_integers_and_their_texts_only _).2.2 rfl rfl

end Predefined
