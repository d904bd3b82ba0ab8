-- What is lost when text is coded in a character set: nothing but the characters that the set does
-- not have. The codings are read back here by the rules of the standards, which know nothing of how
-- they were written: base64 by groups of 24 bits, form fields escape by escape, and bytes as the
-- character set reads them.
import Predefined.Proofs.Base64
import Predefined.Proofs.FormCoding

namespace Predefined

/-! ## Base64 by groups of 24 bits -/

namespace Base64

/-- The symbols in the order of their numbers. -/
def alphabet : List Char :=
  "ABCDEFGHIJKLMNOPQRSTUVWXYZabcdefghijklmnopqrstuvwxyz0123456789+/".toList

def number? (c : Char) : Option Nat :=
  alphabet.idxOf? c

/-- The three bytes of the 24 bits of four symbols. -/
def quad? (a b c d : Char) : Option (List UInt8) := do
  let a ← number? a
  let b ← number? b
  let c ← number? c
  let d ← number? d
  let n := ((a * 64 + b) * 64 + c) * 64 + d
  some [UInt8.ofNat (n / 65536), UInt8.ofNat (n / 256), UInt8.ofNat n]

/-- Reads padded base64. Padding stands for zero bits, and for the bytes that they would make. -/
def read? : List Char → Option (List UInt8)
  | [] => some []
  | [a, b, '=', '='] => (quad? a b 'A' 'A').map (·.take 1)
  | [a, b, c, '='] => (quad? a b c 'A').map (·.take 2)
  | a :: b :: c :: d :: rest => do
    let first ← quad? a b c d
    let others ← read? rest
    some (first ++ others)
  | _ => none

/-- A symbol as a character. -/
def char (n : Nat) : Char :=
  Char.ofNat (symbol n).toNat

theorem number?_char : ∀ n < 64, number? (char n) = some n := by
  decide

theorem char_ne_pad : ∀ n < 64, char n ≠ '=' := by
  decide

theorem char_zero : char 0 = 'A' := by
  decide

/-- The symbols of three bytes, as they are written. -/
theorem quad?_chars (a b c : UInt8) :
    quad? (char (a.toNat / 4)) (char (a.toNat % 4 * 16 + b.toNat / 16))
      (char (b.toNat % 16 * 4 + c.toNat / 64)) (char (c.toNat % 64)) = some [a, b, c] := by
  have ha := a.toNat_lt
  have hb := b.toNat_lt
  have hc := c.toNat_lt
  rw [quad?, number?_char _ (by omega), number?_char _ (by omega), number?_char _ (by omega),
    number?_char _ (by omega)]
  simp only [Option.bind_eq_bind, Option.bind_some]
  rw [ofNat_eq (a := a) (by omega), ofNat_eq (a := b) (by omega), ofNat_eq (a := c) (by omega)]

theorem read?_encode (bytes : List UInt8) :
    read? ((encode bytes).map fun b => Char.ofNat b.toNat) = some bytes := by
  fun_induction encode bytes with
  | case1 => rfl
  | case2 a =>
    have hquad := quad?_chars a 0 0
    simp only [UInt8.toNat_zero, Nat.zero_div, Nat.zero_mod, Nat.add_zero, Nat.zero_mul, char_zero]
      at hquad
    exact congrArg (Option.map (·.take 1)) hquad
  | case3 a b =>
    have hquad := quad?_chars a b 0
    simp only [UInt8.toNat_zero, Nat.zero_div, Nat.zero_mod, Nat.add_zero, char_zero] at hquad
    have hthird : char (b.toNat % 16 * 4) ≠ '=' := char_ne_pad _ (by omega)
    show read? [char (a.toNat / 4), char (a.toNat % 4 * 16 + b.toNat / 16),
      char (b.toNat % 16 * 4), '='] = some [a, b]
    rw [read?, hquad]
    · rfl
    · exact hthird
  | case4 a b c rest ih =>
    have hfourth : char (c.toNat % 64) ≠ '=' := char_ne_pad _ (by omega)
    show read? (char (a.toNat / 4) :: char (a.toNat % 4 * 16 + b.toNat / 16) ::
      char (b.toNat % 16 * 4 + c.toNat / 64) :: char (c.toNat % 64) ::
        (encode rest).map fun b => Char.ofNat b.toNat) = some (a :: b :: c :: rest)
    rw [read?, quad?_chars, ih]
    · rfl
    · exact fun _ h _ => hfourth h
    · exact fun h _ => hfourth h

end Base64

/-! ## Form fields escape by escape -/

namespace Form

/-- Reads a coded field as bytes: a plus sign is a space, an escape the byte of its digits, and any
other character of ASCII itself. -/
def read? : List Char → Option (List UInt8)
  | [] => some []
  | '+' :: cs => (read? cs).map (32 :: ·)
  | '%' :: high :: low :: cs => do
    let h ← Hex.value? high
    let l ← Hex.value? low
    let bytes ← read? cs
    some (UInt8.ofNat (16 * h + l) :: bytes)
  | c :: cs =>
    if c.toNat < 0x80 ∧ c ≠ '%' then (read? cs).map (UInt8.ofNat c.toNat :: ·) else none

/-- A character that stands for itself. -/
theorem plain_char : ∀ n < 0x80, isPlain (UInt8.ofNat n) = true →
    (Char.ofNat n).toNat = n ∧ Char.ofNat n ≠ '+' ∧ Char.ofNat n ≠ '%' := by
  decide

theorem read?_encodeByte (b : UInt8) (cs : List Char) :
    read? (encodeByte b ++ cs) = (read? cs).map (b :: ·) := by
  have hb := b.toNat_lt
  unfold encodeByte
  split
  · rename_i hplain
    have hlt := isPlain_lt hplain
    obtain ⟨hnat, hplus, hpercent⟩ :=
      plain_char b.toNat hlt (by rwa [UInt8.ofNat_toNat])
    rw [List.cons_append, List.nil_append, read?, hnat, if_pos ⟨hlt, hpercent⟩, UInt8.ofNat_toNat]
    · exact hplus
    · exact fun _ _ _ h _ => hpercent h
  · split
    · rename_i hspace
      rw [hspace]
      rfl
    · simp only [List.cons_append, List.nil_append]
      rw [read?, Hex.value?_upperDigit _ (by omega), Hex.value?_upperDigit _ (by omega)]
      have hsum : 16 * (b.toNat / 16) + b.toNat % 16 = b.toNat := by omega
      simp only [Option.bind_eq_bind, Option.bind_some, hsum, UInt8.ofNat_toNat]
      cases read? cs <;> rfl

theorem read?_encode (bytes : List UInt8) : read? (encode bytes) = some bytes := by
  induction bytes with
  | nil => rfl
  | cons b bytes ih => rw [encode, List.flatMap_cons, read?_encodeByte, ← encode, ih, Option.map_some]

end Form

/-! ## Bytes as a character set reads them -/

namespace Charset

/-- The 16-bit units of bytes, two bytes each. -/
def units? (unit : (first second : UInt8) → Nat) : List UInt8 → Option (List Nat)
  | [] => some []
  | [_] => none
  | a :: b :: rest => (units? unit rest).map (unit a b :: ·)

/-- The characters of 16-bit units. A high surrogate and a low one behind it are one character, and
no surrogate stands alone. -/
def ofUnits? : List Nat → Option (List Char)
  | [] => some []
  | u :: us =>
    if u < 0xD800 ∨ 0xDFFF < u then (ofUnits? us).map (Char.ofNat u :: ·)
    else
      match us with
      | [] => none
      | w :: ws =>
        if u < 0xDC00 ∧ 0xDC00 ≤ w ∧ w ≤ 0xDFFF then
          (ofUnits? ws).map (Char.ofNat (0x10000 + (u - 0xD800) * 0x400 + (w - 0xDC00)) :: ·)
        else none

def readBigEndian? (bytes : List UInt8) : Option (List Char) :=
  (units? (fun first second => 256 * first.toNat + second.toNat) bytes).bind ofUnits?

def readLittleEndian? (bytes : List UInt8) : Option (List Char) :=
  (units? (fun first second => 256 * second.toNat + first.toNat) bytes).bind ofUnits?

/-- One character a byte, up to the last one of the set. -/
def readBytes? (last : Nat) (bytes : List UInt8) : Option (List Char) :=
  if bytes.all fun b => b.toNat ≤ last then some (bytes.map fun b => Char.ofNat b.toNat) else none

/-- Reads bytes in a character set. -/
def read? : Charset → List UInt8 → Option (List Char)
  | utf8, bytes => bytes.toByteArray.utf8Decode?.map (·.toList)
  | usAscii, bytes => readBytes? 0x7F bytes
  | latin1, bytes => readBytes? 0xFF bytes
  | utf16, 0xFE :: 0xFF :: bytes => readBigEndian? bytes
  | utf16, _ => none
  | utf16Be, bytes => readBigEndian? bytes
  | utf16Le, bytes => readLittleEndian? bytes

/-- What is left of a text in a character set: a question mark stands for each character that a set
of single bytes does not have. -/
def kept : Charset → List Char → List Char
  | usAscii, s => s.map fun c => if 0x7F < c.toNat then '?' else c
  | latin1, s => s.map fun c => if 0xFF < c.toNat then '?' else c
  | utf8, s | utf16, s | utf16Be, s | utf16Le, s => s

theorem units?_flatMap {unit : UInt8 → UInt8 → Nat} {split : Nat → List UInt8}
    (h : ∀ u < 0x10000, ∃ a b, split u = [a, b] ∧ unit a b = u) {us : List Nat}
    (hus : ∀ u ∈ us, u < 0x10000) : units? unit (us.flatMap split) = some us := by
  induction us with
  | nil => rfl
  | cons u us ih =>
    obtain ⟨a, b, hsplit, hunit⟩ := h u (hus u List.mem_cons_self)
    rw [List.flatMap_cons, hsplit]
    simp only [List.cons_append, List.nil_append, units?, hunit]
    rw [ih fun w hw => hus w (List.mem_cons_of_mem u hw), Option.map_some]

theorem units_lt {c : Char} {u : Nat} (h : u ∈ units c) : u < 0x10000 := by
  have hrange := Utf8.toNat_range c
  simp only [units] at h
  split at h
  · simp only [List.mem_singleton] at h
    omega
  · simp only [List.mem_cons, List.not_mem_nil, or_false] at h
    omega

theorem ofUnits?_single {u : Nat} (h : u < 0xD800 ∨ 0xDFFF < u) (us : List Nat) :
    ofUnits? (u :: us) = (ofUnits? us).map (Char.ofNat u :: ·) := by
  cases us <;> simp [ofUnits?, h]

/-- The surrogates of a number above the 16-bit ones. -/
theorem ofUnits?_pair {n : Nat} (h : n < 0x100000) (us : List Nat) :
    ofUnits? ((0xD800 + n / 0x400) :: (0xDC00 + n % 0x400) :: us) =
      (ofUnits? us).map (Char.ofNat (0x10000 + n) :: ·) := by
  have hnumber : 0x10000 + (0xD800 + n / 0x400 - 0xD800) * 0x400 +
      (0xDC00 + n % 0x400 - 0xDC00) = 0x10000 + n := by omega
  rw [ofUnits?, if_neg (by omega), if_pos (by omega), hnumber]

theorem ofUnits?_units (c : Char) (us : List Nat) :
    ofUnits? (units c ++ us) = (ofUnits? us).map (c :: ·) := by
  have hrange := Utf8.toNat_range c
  by_cases h : c.toNat < 0x10000
  · simp only [units, h, if_true, List.cons_append, List.nil_append]
    rw [ofUnits?_single (by omega), Char.ofNat_toNat]
  · simp only [units, h, if_false, List.cons_append, List.nil_append]
    rw [ofUnits?_pair (by omega), show 0x10000 + (c.toNat - 0x10000) = c.toNat by omega,
      Char.ofNat_toNat]

theorem ofUnits?_flatMap (s : List Char) : ofUnits? (s.flatMap units) = some s := by
  induction s with
  | nil => rfl
  | cons c s ih => rw [List.flatMap_cons, ofUnits?_units, ih, Option.map_some]

theorem mem_units_lt {s : List Char} : ∀ u ∈ s.flatMap units, u < 0x10000 := by
  intro u hu
  obtain ⟨c, -, hu⟩ := List.mem_flatMap.1 hu
  exact units_lt hu

/-- The two bytes of a 16-bit unit make up the unit. -/
theorem bytes_eq_unit {u : Nat} (h : u < 0x10000) :
    256 * (UInt8.ofNat (u / 256)).toNat + (UInt8.ofNat (u % 256)).toNat = u := by
  rw [UInt8.toNat_ofNat', UInt8.toNat_ofNat']
  omega

theorem readBigEndian?_encode (s : List Char) :
    readBigEndian? ((s.flatMap units).flatMap bigEndian) = some s := by
  have hunits : ∀ u < 0x10000, ∃ a b : UInt8, bigEndian u = [a, b] ∧
      256 * a.toNat + b.toNat = u :=
    fun u hu => ⟨_, _, rfl, bytes_eq_unit hu⟩
  rw [readBigEndian?, units?_flatMap hunits mem_units_lt, Option.bind_some, ofUnits?_flatMap]

theorem readLittleEndian?_encode (s : List Char) :
    readLittleEndian? ((s.flatMap units).flatMap littleEndian) = some s := by
  have hunits : ∀ u < 0x10000, ∃ a b : UInt8, littleEndian u = [a, b] ∧
      256 * b.toNat + a.toNat = u :=
    fun u hu => ⟨_, _, rfl, bytes_eq_unit hu⟩
  rw [readLittleEndian?, units?_flatMap hunits mem_units_lt, Option.bind_some, ofUnits?_flatMap]

/-- A byte of a character is the character itself or a question mark. -/
theorem encodeByte_spec {last : Nat} (hmark : 63 ≤ last) (hlast : last < 0x100) (c : Char) :
    (encodeByte last c).toNat ≤ last ∧
      Char.ofNat (encodeByte last c).toNat = if last < c.toNat then '?' else c := by
  unfold encodeByte
  by_cases hc : c.toNat ≤ last
  · have hbyte : (UInt8.ofNat c.toNat).toNat = c.toNat := by
      rw [UInt8.toNat_ofNat']
      omega
    rw [if_pos hc, if_neg (by omega), hbyte, Char.ofNat_toNat]
    exact ⟨hc, rfl⟩
  · rw [if_neg hc, if_pos (by omega)]
    exact ⟨hmark, rfl⟩

theorem readBytes?_map {last : Nat} (hmark : 63 ≤ last) (hlast : last < 0x100) (s : List Char) :
    readBytes? last (s.map (encodeByte last)) =
      some (s.map fun c => if last < c.toNat then '?' else c) := by
  have hall : ((s.map (encodeByte last)).all fun b => b.toNat ≤ last) = true := by
    simp [(encodeByte_spec hmark hlast _).1]
  rw [readBytes?, if_pos hall, List.map_map]
  refine congrArg some (List.map_congr_left fun c _ => ?_)
  exact (encodeByte_spec hmark hlast c).2

theorem utf8Decode?_encode (s : List Char) :
    (Utf8.encode s).toByteArray.utf8Decode?.map (·.toList) = some s := by
  have hbytes : (Utf8.encode s).toByteArray = s.utf8Encode := by
    rw [Utf8.encode, List.utf8Encode, funext Utf8.encodeChar_eq_utf8EncodeChar]
  rw [hbytes, List.utf8Decode?_utf8Encode]
  rfl

/-- What was written in a character set reads as what it keeps of the text. -/
theorem read?_encode (charset : Charset) (s : List Char) :
    charset.read? (charset.encode s) = some (charset.kept s) := by
  cases charset with
  | utf8 => exact utf8Decode?_encode s
  | usAscii => exact readBytes?_map (by decide) (by decide) s
  | latin1 => exact readBytes?_map (by decide) (by decide) s
  | utf16 => exact readBigEndian?_encode s
  | utf16Be => exact readBigEndian?_encode s
  | utf16Le => exact readLittleEndian?_encode s

/-- A name is of the same character set for every function. -/
theorem resolve_of_resolve {function name : String} {charset : Charset}
    (h : resolve function name = .ok charset) (other : String) :
    resolve other name = .ok charset := by
  unfold resolve at h ⊢
  split at h
  · cases h
  · rename_i hlegal
    rw [if_neg hlegal]
    split at h
    · exact h
    · cases h

end Charset

/-- Under every name of a character set, base64 and form coding carry the same bytes. Read in the
character set, these give the text, but for a question mark in the place of each character that a
set of single bytes does not have. -/
theorem coded_text_loses_only_characters_that_its_set_lacks (text name function : String)
    (charset : Charset) (h : Charset.resolve function name = .ok charset) :
    ∃ (base64 form : String) (bytes : List UInt8),
      Value.base64Encode (.string text) (some (.string name)) = .ok (.string base64) ∧
      Value.urlEncode (.string text) (some (.string name)) = .ok (.string form) ∧
      Base64.read? base64.toList = some bytes ∧ Form.read? form.toList = some bytes ∧
      charset.read? bytes = some (charset.kept text.toList) := by
  let bytes := charset.encode text.toList
  have hbytes : ∀ other : String,
      Value.sourceBytes other (.string text) (some (.string name)) = .ok bytes := by
    intro other
    rw [Value.sourceBytes, Charset.resolve_of_resolve h other]
    rfl
  have hbase64 : Value.base64Encode (.string text) (some (.string name)) =
      .ok (.string (String.ofList ((Base64.encode bytes).map fun b => Char.ofNat b.toNat))) := by
    rw [Value.base64Encode, hbytes]
    rfl
  have hform : Value.urlEncode (.string text) (some (.string name)) =
      .ok (.string (String.ofList (Form.encode bytes))) := by
    rw [Value.urlEncode, hbytes]
    rfl
  refine ⟨_, _, bytes, hbase64, hform, ?_, ?_, charset.read?_encode text.toList⟩
  · rw [String.toList_ofList, Base64.read?_encode]
  · rw [String.toList_ofList, Form.read?_encode]

/-- A letter past ASCII and a character past the 16-bit ones, in UTF-16 with its mark under a name
in mixed case, and in the set of single bytes that has the letter only. -/
theorem a_pair_of_surrogates_reads_back_in_one_set_and_is_lost_in_another :
    Charset.resolve "urlEncode" "Utf-16" = .ok .utf16 ∧
      Value.base64Encode (.string "é😀") (some (.string "Utf-16")) = .ok (.string "/v8A6dg93gA=") ∧
      Charset.read? .utf16 [0xFE, 0xFF, 0x00, 0xE9, 0xD8, 0x3D, 0xDE, 0x00] = some ['é', '😀'] ∧
      Charset.resolve "urlEncode" "Latin1" = .ok .latin1 ∧
      Value.urlEncode (.string "é😀") (some (.string "Latin1")) = .ok (.string "%E9%3F") ∧
      Charset.read? .latin1 [0xE9, 0x3F] = some ['é', '?'] := by
  have hutf16 : Charset.resolve "urlEncode" "Utf-16" = .ok .utf16 := rfl
  have hlatin1 : Charset.resolve "urlEncode" "Latin1" = .ok .latin1 := rfl
  have hwritten : Value.base64Encode (.string "é😀") (some (.string "Utf-16")) =
      .ok (.string "/v8A6dg93gA=") := rfl
  have hwritten' : Value.urlEncode (.string "é😀") (some (.string "Latin1")) =
      .ok (.string "%E9%3F") := rfl
  obtain ⟨_, _, _, hbase64, -, hbytes, -, htext⟩ :=
    coded_text_loses_only_characters_that_its_set_lacks "é😀" "Utf-16" "urlEncode" .utf16 hutf16
  obtain ⟨_, _, _, -, hform, -, hbytes', htext'⟩ :=
    coded_text_loses_only_characters_that_its_set_lacks "é😀" "Latin1" "urlEncode" .latin1 hlatin1
  rw [hwritten] at hbase64
  rw [hwritten'] at hform
  cases hbase64
  cases hform
  have hread : Base64.read? "/v8A6dg93gA=".toList =
      some [0xFE, 0xFF, 0x00, 0xE9, 0xD8, 0x3D, 0xDE, 0x00] := rfl
  have hread' : Form.read? "%E9%3F".toList = some [0xE9, 0x3F] := rfl
  cases hread.symm.trans hbytes
  cases hread'.symm.trans hbytes'
  exact ⟨hutf16, hwritten, htext, hlatin1, hwritten', htext'⟩

end Predefined
