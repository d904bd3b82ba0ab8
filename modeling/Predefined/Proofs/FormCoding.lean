-- The coding of form fields is undone however it was done. A character may be written as itself or
-- by the escapes of its bytes, and a space as a plus sign; the coding that is written here is one
-- of these. Reading turns each way of writing a character into the bytes of the character, whatever
-- stands behind it, and only then into text.
import Predefined.Proofs.Utf8
import Predefined.Value.Coding

namespace Predefined

/-! ## Digits -/

namespace Hex

/-- A hexadecimal digit of a number in either case. -/
def IsDigit (n : Nat) (c : Char) : Prop :=
  c = lowerDigit n ∨ c = upperDigit n

theorem value?_lowerDigit : ∀ n < 16, value? (lowerDigit n) = some n := by
  decide

theorem value?_upperDigit : ∀ n < 16, value? (upperDigit n) = some n := by
  decide

theorem IsDigit.value? {n : Nat} {c : Char} (h : IsDigit n c) (hn : n < 16) :
    Hex.value? c = some n := by
  rcases h with rfl | rfl
  · exact value?_lowerDigit n hn
  · exact value?_upperDigit n hn

/-- A digit has a value, so it is a letter or a digit of ASCII. -/
theorem toNat_of_value? {n : Nat} {c : Char} (h : value? c = some n) :
    c.toNat < 0x80 ∧ c ≠ '+' := by
  unfold value? at h
  refine ⟨?_, ?_⟩
  · grind
  · rintro rfl
    simp at h

end Hex

namespace Form

/-! ## Ways of writing -/

/-- Bytes as escapes, each digit in either case. -/
inductive Escapes : List UInt8 → List Char → Prop where
  | nil : Escapes [] []
  | cons {b : UInt8} {bs : List UInt8} {high low : Char} {cs : List Char}
    (first : Hex.IsDigit (b.toNat / 16) high) (second : Hex.IsDigit (b.toNat % 16) low)
    (rest : Escapes bs cs) : Escapes (b :: bs) ('%' :: high :: low :: cs)

/-- The ways of writing one character. -/
inductive WritesChar : Char → List Char → Prop where
  /-- A plus sign would read as a space, and a percent sign may begin an escape. -/
  | itself {c : Char} (plus : c ≠ '+') (percent : c ≠ '%') : WritesChar c [c]
  | escaped {c : Char} {cs : List Char} (h : Escapes (String.utf8EncodeChar c) cs) :
    WritesChar c cs
  | space : WritesChar ' ' ['+']

/-- The ways of writing a text, each of its characters in a way of its own. -/
inductive Writes : List Char → List Char → Prop where
  | nil : Writes [] []
  | cons {c : Char} {s cs e : List Char} (first : WritesChar c cs) (rest : Writes s e) :
    Writes (c :: s) (cs ++ e)

/-! ## Reading -/

/-- A text with spaces for plus signs. -/
def spaced (text : List Char) : List Char :=
  text.map fun c => if c = '+' then ' ' else c

theorem decode_eq (text : List Char) :
    decode text = Utf8.decode (unescape (Utf8.encode (spaced text))) := rfl

theorem unescape_cons {b : UInt8} (h : b ≠ 37) (bs : List UInt8) :
    unescape (b :: bs) = b :: unescape bs := by
  rw [unescape]
  simp [h]

theorem unescape_append {bytes : List UInt8} (h : ∀ b ∈ bytes, b ≠ 37) (bs : List UInt8) :
    unescape (bytes ++ bs) = bytes ++ unescape bs := by
  induction bytes with
  | nil => rfl
  | cons b bytes ih =>
    have hbytes : ∀ b' ∈ bytes, b' ≠ 37 := fun b' hb' => h b' (List.mem_cons_of_mem b hb')
    rw [List.cons_append, unescape_cons (h b List.mem_cons_self), ih hbytes, List.cons_append]

theorem unescape_escape {b high low : UInt8} (h : escaped? high low = some b) (bs : List UInt8) :
    unescape (37 :: high :: low :: bs) = b :: unescape bs := by
  rw [unescape, h]

/-- The two digits of a byte are read as the byte. -/
theorem escaped?_digits {b : UInt8} {high low : Char} (hhigh : Hex.IsDigit (b.toNat / 16) high)
    (hlow : Hex.IsDigit (b.toNat % 16) low) :
    escaped? (UInt8.ofNat high.toNat) (UInt8.ofNat low.toNat) = some b := by
  have hb : b.toNat < 256 := b.toNat_lt
  have hvalue := hhigh.value? (by omega)
  have hvalue' := hlow.value? (by omega)
  have hsum : 16 * (b.toNat / 16) + b.toNat % 16 = b.toNat := by omega
  rw [escaped?, Utf8.ofNat_toNat_byte (Hex.toNat_of_value? hvalue).1,
    Utf8.ofNat_toNat_byte (Hex.toNat_of_value? hvalue').1, hvalue, hvalue']
  simp only [Option.bind_eq_bind, Option.bind_some, hsum, UInt8.ofNat_toNat]
  rfl

/-- Escapes are read as the bytes that they were made of. -/
theorem unescape_escapes {bytes : List UInt8} {cs : List Char} (h : Escapes bytes cs)
    (bs : List UInt8) : unescape (Utf8.encode (spaced cs) ++ bs) = bytes ++ unescape bs := by
  induction h with
  | nil => rfl
  | @cons b bytes high low cs hhigh hlow _ ih =>
    have hb : b.toNat < 256 := b.toNat_lt
    obtain ⟨hascii, hplus⟩ := Hex.toNat_of_value? (hhigh.value? (by omega))
    obtain ⟨hascii', hplus'⟩ := Hex.toNat_of_value? (hlow.value? (by omega))
    have hspaced : spaced ('%' :: high :: low :: cs) = '%' :: high :: low :: spaced cs := by
      simp [spaced, hplus, hplus']
    have hbytes : Utf8.encode (spaced ('%' :: high :: low :: cs)) =
        37 :: UInt8.ofNat high.toNat :: UInt8.ofNat low.toNat :: Utf8.encode (spaced cs) := by
      rw [hspaced]
      simp only [Utf8.encode, List.flatMap_cons, Utf8.encodeChar_of_lt hascii,
        Utf8.encodeChar_of_lt hascii']
      rfl
    rw [hbytes]
    simp only [List.cons_append]
    rw [unescape_escape (escaped?_digits hhigh hlow), ih]

/-- However a character is written, it is read as its bytes. -/
theorem unescape_writesChar {c : Char} {cs : List Char} (h : WritesChar c cs) (bs : List UInt8) :
    unescape (Utf8.encode (spaced cs) ++ bs) = Utf8.encodeChar c ++ unescape bs := by
  cases h with
  | itself hplus hpercent =>
    have hspaced : Utf8.encode (spaced [c]) = Utf8.encodeChar c := by
      simp [spaced, hplus, Utf8.encode]
    rw [hspaced]
    refine unescape_append (fun b hb => ?_) bs
    rintro rfl
    by_cases hascii : c.toNat < 0x80
    · rw [Utf8.encodeChar_of_lt hascii, List.mem_singleton] at hb
      exact hpercent (by rw [← Utf8.ofNat_toNat_byte hascii, ← hb]; rfl)
    · exact absurd (Utf8.le_toNat_of_mem_encodeChar (Nat.le_of_not_lt hascii) 37 hb) (by decide)
  | escaped h =>
    rw [unescape_escapes h, Utf8.encodeChar_eq_utf8EncodeChar]
  | space => exact unescape_cons (by decide) bs

theorem unescape_writes {s e : List Char} (h : Writes s e) :
    unescape (Utf8.encode (spaced e)) = Utf8.encode s := by
  induction h with
  | nil => rfl
  | @cons c s cs e hfirst _ ih =>
    have happend : Utf8.encode (spaced (cs ++ e)) =
        Utf8.encode (spaced cs) ++ Utf8.encode (spaced e) := by
      simp [spaced, Utf8.encode]
    rw [happend, unescape_writesChar hfirst, ih]
    rfl

theorem decode_of_writes {s e : List Char} (h : Writes s e) : decode e = s := by
  rw [decode_eq, unescape_writes h, Utf8.decode_encode]

/-! ## Writing -/

theorem encode_append (bs cs : List UInt8) : encode (bs ++ cs) = encode bs ++ encode cs :=
  List.flatMap_append

/-- Bytes that are neither plain nor a space are written as escapes. -/
theorem escapes_encode {bytes : List UInt8} (h : ∀ b ∈ bytes, isPlain b = false ∧ b ≠ 32) :
    Escapes bytes (encode bytes) := by
  induction bytes with
  | nil => exact .nil
  | cons b bytes ih =>
    obtain ⟨hplain, hspace⟩ := h b List.mem_cons_self
    have hbytes : Escapes bytes (encode bytes) := ih fun b' hb' => h b' (List.mem_cons_of_mem b hb')
    have hb : encode (b :: bytes) =
        '%' :: Hex.upperDigit (b.toNat / 16) :: Hex.upperDigit (b.toNat % 16) :: encode bytes := by
      simp [encode, encodeByte, hplain, hspace]
    rw [hb]
    exact .cons (Or.inr rfl) (Or.inr rfl) hbytes

theorem isPlain_lt {b : UInt8} (h : isPlain b = true) : b.toNat < 0x80 := by
  simp only [isPlain, Bool.or_eq_true, Bool.and_eq_true, decide_eq_true_eq, beq_iff_eq] at h
  omega

theorem writesChar_encode (c : Char) : WritesChar c (encode (Utf8.encodeChar c)) := by
  by_cases hc : c.toNat < 0x80
  · rw [Utf8.encodeChar_of_lt hc]
    have hchar : Char.ofNat (UInt8.ofNat c.toNat).toNat = c := Utf8.ofNat_toNat_byte hc
    have hencode : encode [UInt8.ofNat c.toNat] = encodeByte (UInt8.ofNat c.toNat) := by
      simp [encode]
    by_cases hplain : isPlain (UInt8.ofNat c.toNat) = true
    · have hself : encode [UInt8.ofNat c.toNat] = [c] := by
        rw [hencode, encodeByte, if_pos hplain, hchar]
      rw [hself]
      refine .itself ?_ ?_
      · rintro rfl
        exact absurd hplain (by decide)
      · rintro rfl
        exact absurd hplain (by decide)
    · by_cases hspace : UInt8.ofNat c.toNat = 32
      · have hc' : c = ' ' := by
          rw [← hchar, hspace]
          rfl
        subst hc'
        exact .space
      · refine .escaped ?_
        rw [← Utf8.encodeChar_eq_utf8EncodeChar, Utf8.encodeChar_of_lt hc]
        rw [Bool.not_eq_true] at hplain
        refine escapes_encode fun b hb => ?_
        rw [List.mem_singleton.1 hb]
        exact ⟨hplain, hspace⟩
  · refine .escaped ?_
    rw [← Utf8.encodeChar_eq_utf8EncodeChar]
    refine escapes_encode fun b hb => ?_
    have hge : 0x80 ≤ b.toNat := Utf8.le_toNat_of_mem_encodeChar (Nat.le_of_not_lt hc) b hb
    refine ⟨?_, ?_⟩
    · rw [← Bool.not_eq_true]
      exact fun hplain => absurd (isPlain_lt hplain) (by omega)
    · rintro rfl
      exact absurd hge (by decide)

theorem writes_encode (s : List Char) : Writes s (encode (Utf8.encode s)) := by
  induction s with
  | nil => exact .nil
  | cons c s ih =>
    rw [Utf8.encode, List.flatMap_cons, encode_append]
    exact .cons (writesChar_encode c) ih

/-- The characters of written text outside of escapes. -/
def IsWritten (c : Char) : Prop :=
  c.isAlphanum = true ∨ c ∈ ['*', '-', '.', '_', '+']

/-- A digit or one of the letters from `A` to `F`. -/
def IsUpperDigit (c : Char) : Prop :=
  c.isDigit = true ∨ 'A' ≤ c ∧ c ≤ 'F'

instance (c : Char) : Decidable (IsWritten c) :=
  inferInstanceAs (Decidable (_ ∨ _))

instance (c : Char) : Decidable (IsUpperDigit c) :=
  inferInstanceAs (Decidable (_ ∨ _))

/-- The form of text as it is written here: plain characters, plus signs, and escapes in upper
case. -/
inductive Coded : List Char → Prop where
  | nil : Coded []
  | char {c : Char} {cs : List Char} (first : IsWritten c) (rest : Coded cs) : Coded (c :: cs)
  | escape {high low : Char} {cs : List Char} (first : IsUpperDigit high)
    (second : IsUpperDigit low) (rest : Coded cs) : Coded ('%' :: high :: low :: cs)

theorem isWritten_of_isPlain : ∀ n < 0x80, isPlain (UInt8.ofNat n) = true →
    IsWritten (Char.ofNat n) := by
  decide

theorem isUpperDigit_upperDigit : ∀ n < 16, IsUpperDigit (Hex.upperDigit n) := by
  decide

theorem coded_encode (bytes : List UInt8) : Coded (encode bytes) := by
  induction bytes with
  | nil => exact .nil
  | cons b bytes ih =>
    have hb : b.toNat < 256 := b.toNat_lt
    rw [encode, List.flatMap_cons, ← encode, encodeByte]
    split
    · rename_i hplain
      refine .char (isWritten_of_isPlain b.toNat (isPlain_lt hplain) ?_) ih
      rwa [UInt8.ofNat_toNat]
    · split
      · exact .char (by decide) ih
      · exact .escape (isUpperDigit_upperDigit _ (by omega))
          (isUpperDigit_upperDigit _ (by omega)) ih

end Form

/-- Reading a form coding gives the text that was written, in whatever way each of its characters
was written. The coding that is written is one of these ways, and keeps to plain characters, plus
signs and escapes in upper case. -/
theorem url_decoding_undoes_every_form_encoding (s : String) :
    (∀ e : String, Form.Writes s.toList e.toList →
      Value.urlDecode (.string e) = .ok (.string s)) ∧
    ∃ e : String, Value.urlEncode (.string s) none = .ok (.string e) ∧
      Form.Writes s.toList e.toList ∧ Form.Coded e.toList ∧
      Value.urlDecode (.string e) = .ok (.string s) := by
  have hdecode : ∀ e : String, Form.Writes s.toList e.toList →
      Value.urlDecode (.string e) = .ok (.string s) := by
    intro e he
    rw [Value.urlDecode, Form.decode_of_writes he, String.ofList_toList]
  have hwrites : Form.Writes s.toList
      (String.ofList (Form.encode (Utf8.encode s.toList))).toList := by
    rw [String.toList_ofList]
    exact Form.writes_encode s.toList
  refine ⟨hdecode, String.ofList (Form.encode (Utf8.encode s.toList)), rfl, hwrites, ?_, ?_⟩
  · rw [String.toList_ofList]
    exact Form.coded_encode _
  · exact hdecode _ hwrites

/-- A letter as escapes in both cases, a space as a plus sign, a letter as itself, and a plus sign
as an escape. -/
theorem a_text_in_several_form_encodings_at_once_reads_back :
    Form.Writes ['é', ' ', 'τ', '+'] ['%', 'c', '3', '%', 'A', '9', '+', 'τ', '%', '2', 'b'] ∧
      Value.urlDecode (.string "%c3%A9+τ%2b") = .ok (.string "é τ+") := by
  have hletter : Form.WritesChar 'é' ['%', 'c', '3', '%', 'A', '9'] :=
    .escaped (.cons (Or.inl rfl) (Or.inl rfl) (.cons (Or.inr rfl) (Or.inl rfl) .nil))
  have hplus : Form.WritesChar '+' ['%', '2', 'b'] :=
    .escaped (.cons (Or.inl rfl) (Or.inl rfl) .nil)
  have hwrites : Form.Writes ['é', ' ', 'τ', '+']
      ['%', 'c', '3', '%', 'A', '9', '+', 'τ', '%', '2', 'b'] :=
    .cons hletter (.cons .space (.cons (.itself (by decide) (by decide)) (.cons hplus .nil)))
  exact ⟨hwrites, (url_decoding_undoes_every_form_encoding "é τ+").1 "%c3%A9+τ%2b" hwrites⟩

end Predefined
