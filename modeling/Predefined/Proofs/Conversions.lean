-- Conversions go by the text of a value. Where a value of the wanted kind is passed through, its
-- text would be read back as the same value: an integer by its digits, a double by the decimal that
-- is rounded to it, a boolean by its name.
import Predefined.Proofs.DoubleText
import Predefined.Value.Conversion
import Predefined.Value.Text

namespace Predefined

namespace Value

/-! ## Integers -/

theorem scan_natChars (n : Nat) : Decimal.scan (Decimal.natChars n) = (Decimal.digits n, []) :=
  Decimal.scan_chars (Decimal.digits n)

theorem int64OfText?_intText (i : Int64) : int64OfText? (Decimal.intText i.toInt) = some i := by
  have hlow : -0x8000000000000000 ≤ i.toInt := i.le_toInt
  have hhigh : i.toInt < 0x8000000000000000 := i.toInt_lt
  have hself : Int64.ofInt i.toInt = i := Int64.ofInt_toInt i
  obtain ⟨c, ds, hchars, hdigits⟩ := Decimal.natChars_eq_cons i.toInt.natAbs
  have hvalue : Decimal.value (c :: ds) = i.toInt.natAbs := by rw [← hdigits, Decimal.value_digits]
  have hscan : Decimal.scan (c.char :: Decimal.chars ds) = (c :: ds, []) := by
    rw [← hchars, scan_natChars, hdigits]
  have hminus := Digit.char_ne (by decide : Digit.ofChar? '-' = none) c
  have hplus := Digit.char_ne (by decide : Digit.ofChar? '+' = none) c
  simp only [int64OfText?, Decimal.intText, String.toList_ofList, Decimal.intChars, hchars]
  by_cases hneg : i.toInt < 0
  · have habs : -(i.toInt.natAbs : Int) = i.toInt := by omega
    simp only [if_pos hneg, hscan, hvalue, if_true, habs, hlow, hhigh, and_self, hself]
  · have habs : (i.toInt.natAbs : Int) = i.toInt := by omega
    simp only [if_neg hneg]
    simp [hminus, hplus, hscan, hvalue, habs, hlow, hhigh, hself]

/-! ## White space -/

theorem dropWhile_isSpace {s : List Char} (h : ∀ c ∈ s, isSpace c = false) :
    s.dropWhile isSpace = s := by
  cases s with
  | nil => rfl
  | cons c s => rw [List.dropWhile_cons, h c List.mem_cons_self, if_neg Bool.false_ne_true]

theorem stripped_of_forall {s : List Char} (h : ∀ c ∈ s, isSpace c = false) : stripped s = s := by
  have hreverse : ∀ c ∈ s.reverse, isSpace c = false := fun c hc => h c (List.mem_reverse.1 hc)
  rw [stripped, dropWhile_isSpace h, dropWhile_isSpace hreverse, List.reverse_reverse]

theorem isSpace_digit (d : Digit) : isSpace d.char = false := by
  revert d
  decide +kernel

/-- The text of a double has no white space around it. -/
theorem stripped_chars (d : Double) : stripped d.chars = d.chars := by
  refine stripped_of_forall fun c hc => ?_
  have hmarks : (['.', '-', 'N', 'a', 'I', 'n', 'f', 'i', 't', 'y'].all fun c =>
      !isSpace c) = true := by
    decide +kernel
  rcases Double.mem_chars hc with hmark | ⟨digit, rfl⟩
  · simpa using List.all_eq_true.1 hmarks c hmark
  · exact isSpace_digit digit

/-! ## Conversions -/

theorem toInteger_text (v : Value) : v.toInteger = (string v.text).toInteger := by
  cases v with
  | integer i =>
    simp only [toInteger, text, int64OfText?_intText]
  | _ => rfl

theorem toFloat_text (v : Value) : v.toFloat = (string v.text).toFloat := by
  cases v with
  | double d =>
    simp only [toFloat, text, Double.text, String.toList_ofList, stripped_chars,
      Double.readChars_chars]
  | _ => simp only [toFloat, text]

theorem toBoolean_text (v : Value) : v.toBoolean = (string v.text).toBoolean := by
  cases v with
  | boolean b => cases b <;> rfl
  | _ => rfl

/-- Text functions read a value of another kind by its text. -/
theorem mapText_text {v : Value} (h : v.isPrimitive = true) (function : String)
    (f : List Char → List Char) : mapText function f v = mapText function f (string v.text) := by
  have hstring : (string v.text).isPrimitive = true := rfl
  rw [mapText, mapText, if_pos h, if_pos hstring]
  rfl

end Value

/-- A value is converted as its text is. So integers and doubles read back from their texts, and
doubles do whatever their sign, size or number of places is. -/
theorem conversions_factor_through_the_text (v : Value) :
    v.toInteger = (Value.string v.text).toInteger ∧
    v.toFloat = (Value.string v.text).toFloat ∧
    v.toBoolean = (Value.string v.text).toBoolean ∧
    (v.isPrimitive = true →
      v.toLower = (Value.string v.text).toLower ∧ v.toUpper = (Value.string v.text).toUpper) ∧
    (∀ i, (Value.string (Value.integer i).text).toInteger = .ok (.integer i)) ∧
    ∀ d, (Value.string (Value.double d).text).toFloat = .ok (.double d) := by
  refine ⟨v.toInteger_text, v.toFloat_text, v.toBoolean_text, fun h => ⟨?_, ?_⟩, fun i => ?_,
    fun d => ?_⟩
  · exact Value.mapText_text h _ _
  · exact Value.mapText_text h _ _
  · exact (Value.toInteger_text (.integer i)).symm
  · exact (Value.toFloat_text (.double d)).symm

theorem a_boolean_changes_case_as_its_name_does :
    (Value.boolean true).isPrimitive = true ∧
    (Value.boolean true).toUpper = (Value.string "true").toUpper :=
  have h := conversions_factor_through_the_text (.boolean true)
  ⟨rfl, (h.2.2.2.1 rfl).2⟩

end Predefined
