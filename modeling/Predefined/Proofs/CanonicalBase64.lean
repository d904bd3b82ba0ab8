-- Base64 that is read has the form in which it would be written, but for the padding at its end.
-- Every check of the reader refuses some other form, and together they leave only the symbols of
-- the sextets of bytes. So the text can be told from the bytes, and the bytes from what they read
-- as, unless a character stands for bytes that are no text.
import Mathlib.Data.List.DropRight
import Predefined.Proofs.Charsets
import Predefined.Value.Conversion

namespace Predefined

namespace Base64

/-! ## Symbols -/

/-- Every symbol is the one of its number. -/
theorem symbol_of_value? {b : UInt8} {n : Nat} (h : value? b = some n) :
    n < 64 ∧ symbol n = b := by
  have hall : ∀ k < 0x100, (value? (UInt8.ofNat k)).all fun n =>
      decide (n < 64 ∧ symbol n = UInt8.ofNat k) := by
    decide +kernel
  have hb := hall b.toNat b.toNat_lt
  rw [UInt8.ofNat_toNat, h] at hb
  exact of_decide_eq_true hb

theorem symbol_of_valueAt {offset : Nat} {b : UInt8} {n : Nat} (h : valueAt offset b = .ok n) :
    n < 64 ∧ symbol n = b := by
  unfold valueAt at h
  split at h
  · rename_i hvalue
    obtain rfl := Except.ok.inj h
    exact symbol_of_value? hvalue
  · cases h

/-- A result behind a step is a result of what follows the step. -/
theorem exists_of_bind_eq_ok {ε α β : Type} {x : Except ε α} {f : α → Except ε β} {b : β}
    (h : x >>= f = .ok b) : ∃ a, x = .ok a ∧ f a = .ok b := by
  cases x with
  | error e => cases h
  | ok a => exact ⟨a, rfl, h⟩

theorem symbols_of_valuesFrom {offset : Nat} {bs : List UInt8} {ns : List Nat}
    (h : valuesFrom offset bs = .ok ns) : (∀ n ∈ ns, n < 64) ∧ ns.map symbol = bs := by
  induction bs generalizing offset ns with
  | nil =>
    obtain rfl := Except.ok.inj h
    exact ⟨by simp, rfl⟩
  | cons b bs ih =>
    rw [valuesFrom] at h
    obtain ⟨n, hn, h⟩ := exists_of_bind_eq_ok h
    obtain ⟨ms, hms, h⟩ := exists_of_bind_eq_ok h
    obtain rfl := Except.ok.inj h
    obtain ⟨hlt, rfl⟩ := symbol_of_valueAt hn
    obtain ⟨hlts, rfl⟩ := ih hms
    exact ⟨List.forall_mem_cons.2 ⟨hlt, hlts⟩, rfl⟩

/-! ## Bytes -/

/-- The range of a byte as a numeral, which `omega` can read. -/
theorem toNat_ofNat_of_lt {n : Nat} (h : n < 0x100) : (UInt8.ofNat n).toNat = n :=
  UInt8.toNat_ofNat_of_lt' h

theorem sextets_triple {a b c d : Nat} (ha : a < 64) (hb : b < 64) (hc : c < 64) (hd : d < 64)
    (bytes : List UInt8) :
    sextets (triple a b c d ++ bytes) = a :: b :: c :: d :: sextets bytes := by
  show sextets (UInt8.ofNat (a * 4 + b / 16) :: UInt8.ofNat (b % 16 * 16 + c / 4) ::
    UInt8.ofNat (c % 4 * 64 + d) :: bytes) = _
  rw [sextets, toNat_ofNat_of_lt (by omega), toNat_ofNat_of_lt (by omega),
    toNat_ofNat_of_lt (by omega)]
  rw [show (a * 4 + b / 16) / 4 = a by omega,
    show (a * 4 + b / 16) % 4 * 16 + (b % 16 * 16 + c / 4) / 16 = b by omega,
    show (b % 16 * 16 + c / 4) % 16 * 4 + (c % 4 * 64 + d) / 64 = c by omega,
    show (c % 4 * 64 + d) % 64 = d by omega]

/-- The last numbers are the sextets of their bytes: a lone one has none, and no bits are left. -/
theorem sextets_of_lastBytes {offset : Nat} {ns : List Nat} {bytes : List UInt8}
    (hns : ∀ n ∈ ns, n < 64) (hlength : ns.length ≤ 4) (h : lastBytes offset ns = .ok bytes) :
    sextets bytes = ns ∧ (ns = [] ∨ ns.length + padding bytes = 4) := by
  match ns, h with
  | [], h =>
    obtain rfl := Except.ok.inj h
    exact ⟨rfl, Or.inl rfl⟩
  | [_], h => cases h
  | [a, b], h =>
    simp only [List.forall_mem_cons] at hns
    rw [lastBytes] at h
    split at h
    · obtain rfl := Except.ok.inj h
      refine ⟨?_, Or.inr rfl⟩
      rw [sextets, toNat_ofNat_of_lt (by omega), show (a * 4 + b / 16) / 4 = a by omega,
        show (a * 4 + b / 16) % 4 * 16 = b by omega]
    · cases h
  | [a, b, c], h =>
    simp only [List.forall_mem_cons] at hns
    rw [lastBytes] at h
    split at h
    · obtain rfl := Except.ok.inj h
      refine ⟨?_, Or.inr rfl⟩
      rw [sextets, toNat_ofNat_of_lt (by omega), toNat_ofNat_of_lt (by omega),
        show (a * 4 + b / 16) / 4 = a by omega,
        show (a * 4 + b / 16) % 4 * 16 + (b % 16 * 16 + c / 4) / 16 = b by omega,
        show (b % 16 * 16 + c / 4) % 16 * 4 = c by omega]
    · cases h
  | a :: b :: c :: d :: rest, h =>
    obtain rfl : rest = [] := List.eq_nil_of_length_eq_zero (by
      simp only [List.length_cons] at hlength
      omega)
    simp only [List.forall_mem_cons] at hns
    obtain rfl := Except.ok.inj h
    obtain ⟨ha, hb, hc, hd, -⟩ := hns
    have hsextets := sextets_triple ha hb hc hd []
    rw [List.append_nil] at hsextets
    exact ⟨hsextets, Or.inr rfl⟩

/-! ## Quads -/

/-- Padding that follows two symbols at least, and has nothing behind it. -/
theorem symbols_of_decodeLast {offset : Nat} {quad bytes : List UInt8} (hlength : quad.length ≤ 4)
    (h : decodeLast offset quad = .ok bytes) :
    ∃ k ≤ padding bytes, quad = (sextets bytes).map symbol ++ List.replicate k pad := by
  have hquad : quad.takeWhile (· != pad) ++ quad.dropWhile (· != pad) = quad :=
    List.takeWhile_append_dropWhile
  unfold decodeLast at h
  dsimp only at h
  generalize quad.takeWhile (· != pad) = symbols at h hquad
  generalize quad.dropWhile (· != pad) = pads at h hquad
  subst hquad
  obtain ⟨ns, hns, h⟩ := exists_of_bind_eq_ok h
  obtain ⟨hlt, rfl⟩ := symbols_of_valuesFrom hns
  split at h
  · cases h
  · rename_i hpads
    simp only [List.length_append, List.length_map] at hlength
    obtain ⟨hsextets, hfull⟩ := sextets_of_lastBytes hlt (by omega) h
    rw [hsextets]
    rcases pads with _ | ⟨p, pads⟩
    · exact ⟨0, Nat.zero_le _, rfl⟩
    · simp only [List.length_map, List.isEmpty_cons, Bool.not_false, Bool.true_and,
        Bool.or_eq_true, decide_eq_true_eq, not_or, Bool.not_eq_true, List.any_eq_false, bne_iff_ne,
        ne_eq, not_not] at hpads
      obtain ⟨htwo, hpads⟩ := hpads
      refine ⟨(p :: pads).length, ?_, ?_⟩
      · rcases hfull with rfl | hfull
        · exact absurd Nat.two_pos htwo
        · omega
      · rw [← List.eq_replicate_length.2 hpads]

/-- What is read is the symbols of the sextets of bytes and no more padding than they need. -/
theorem symbols_of_decodeFrom {offset : Nat} {text bytes : List UInt8}
    (h : decodeFrom offset text = .ok bytes) :
    ∃ k ≤ padding bytes, text = (sextets bytes).map symbol ++ List.replicate k pad := by
  fun_induction decodeFrom offset text generalizing bytes with
  | case1 offset a b c d e rest ih =>
    obtain ⟨n₁, hread₁, h⟩ := exists_of_bind_eq_ok h
    obtain ⟨n₂, hread₂, h⟩ := exists_of_bind_eq_ok h
    obtain ⟨n₃, hread₃, h⟩ := exists_of_bind_eq_ok h
    obtain ⟨n₄, hread₄, h⟩ := exists_of_bind_eq_ok h
    obtain ⟨others, hothers, h⟩ := exists_of_bind_eq_ok h
    obtain rfl := Except.ok.inj h
    obtain ⟨h₁, rfl⟩ := symbol_of_valueAt hread₁
    obtain ⟨h₂, rfl⟩ := symbol_of_valueAt hread₂
    obtain ⟨h₃, rfl⟩ := symbol_of_valueAt hread₃
    obtain ⟨h₄, rfl⟩ := symbol_of_valueAt hread₄
    obtain ⟨k, hk, hrest⟩ := ih hothers
    refine ⟨k, hk, ?_⟩
    rw [sextets_triple h₁ h₂ h₃ h₄, hrest]
    rfl
  | case2 offset quad hquad =>
    refine symbols_of_decodeLast ?_ h
    match quad, hquad with
    | [], _ | [_], _ | [_, _], _ | [_, _, _], _ | [_, _, _, _], _ => simp
    | _ :: _ :: _ :: _ :: _ :: _, hquad => exact (hquad _ _ _ _ _ _ rfl).elim

/-- Bytes are read from the symbols of their sextets, with some of the padding behind them, and from
nothing else. -/
theorem symbols_of_decode {text bytes : List UInt8} (h : decode text = .ok bytes) :
    ∃ k ≤ padding bytes, text = (sextets bytes).map symbol ++ List.replicate k pad := by
  unfold decode at h
  split at h
  · cases h
  · exact symbols_of_decodeFrom h

/-! ## Text -/

/-- A text without the padding at its end. -/
def unpadded (text : List Char) : List Char :=
  text.rdropWhile (· == '=')

/-- Symbols with the padding that fills up the last quad. -/
def padded (symbols : List Char) : List Char :=
  symbols ++ List.replicate ((4 - symbols.length % 4) % 4) '='

/-- The form in which base64 is written, with as much of the padding as one likes. -/
structure Canonical (text : List Char) : Prop where
  alphabet : ∀ c ∈ unpadded text, c ∈ Base64.alphabet
  noSpace : ∀ c ∈ text, Value.isSpace c = false
  noPadInside : '=' ∉ unpadded text
  padding : ∃ k ≤ (4 - (unpadded text).length % 4) % 4,
    text = unpadded text ++ List.replicate k '='
  noLoneSymbol : (unpadded text).length % 4 ≠ 1
  noUnusedBits : ∀ c ∈ (unpadded text).getLast?, ∀ n, number? c = some n →
    ((unpadded text).length % 4 = 2 → n % 16 = 0) ∧ ((unpadded text).length % 4 = 3 → n % 4 = 0)

theorem text_of_decode {text : List Char} {bytes : List UInt8}
    (h : decode (Utf8.encode text) = .ok bytes) :
    ∃ k ≤ padding bytes, text = (sextets bytes).map char ++ List.replicate k '=' := by
  obtain ⟨k, hk, hbytes⟩ := symbols_of_decode h
  have hascii : ∀ b ∈ (sextets bytes).map symbol ++ List.replicate k pad, b.toNat < 0x80 :=
    fun b => toNat_lt_of_mem_symbols
  have hencode := hbytes.trans (Utf8.encode_map_ofNat hascii).symm
  refine ⟨k, hk, ?_⟩
  rw [← Utf8.decode_encode text, hencode, Utf8.decode_encode, List.map_append, List.map_map,
    List.map_replicate]
  rfl

theorem unpadded_append {symbols : List Char} (h : '=' ∉ symbols) (k : Nat) :
    unpadded (symbols ++ List.replicate k '=') = symbols := by
  induction k with
  | zero =>
    rw [List.replicate_zero, List.append_nil, unpadded, List.rdropWhile_eq_self_iff]
    intro hne hlast
    exact h (beq_iff_eq.1 hlast ▸ List.getLast_mem hne)
  | succ k ih =>
    rw [List.replicate_succ', ← List.append_assoc, unpadded, List.rdropWhile_concat_pos _ _ _ rfl,
      ← unpadded, ih]

theorem pad_not_mem_chars (bytes : List UInt8) : '=' ∉ (sextets bytes).map char := by
  intro h
  obtain ⟨n, hn, hchar⟩ := List.mem_map.1 h
  exact char_ne_pad n (lt_of_mem_sextets hn) hchar

/-- The padding fills up the quads. -/
theorem padding_eq (bytes : List UInt8) : padding bytes = (4 - (sextets bytes).length % 4) % 4 := by
  fun_induction sextets bytes with
  | case1 => rfl
  | case2 a => rfl
  | case3 a b => rfl
  | case4 a b c rest ih =>
    rw [padding, ih]
    simp only [List.length_cons]
    omega

theorem encode_eq_padded (bytes : List UInt8) :
    (encode bytes).map (fun b => Char.ofNat b.toNat) = padded ((sextets bytes).map char) := by
  rw [encode_eq, padded, List.length_map, ← padding_eq, List.map_append, List.map_map,
    List.map_replicate]
  rfl

theorem length_sextets_mod (bytes : List UInt8) : (sextets bytes).length % 4 ≠ 1 := by
  fun_induction sextets bytes with
  | case1 => simp
  | case2 a => simp
  | case3 a b => simp
  | case4 a b c rest ih =>
    simp only [List.length_cons]
    omega

/-- The bits of the last sextet that no byte needs are zero. -/
theorem last_sextet {bytes : List UInt8} {n : Nat} (h : (sextets bytes).getLast? = some n) :
    ((sextets bytes).length % 4 = 2 → n % 16 = 0) ∧
      ((sextets bytes).length % 4 = 3 → n % 4 = 0) := by
  fun_induction sextets bytes with
  | case1 => cases h
  | case2 a =>
    obtain rfl := Option.some.inj h
    exact ⟨fun _ => Nat.mul_mod_left _ _, by simp⟩
  | case3 a b =>
    obtain rfl := Option.some.inj h
    exact ⟨by simp, fun _ => Nat.mul_mod_left _ _⟩
  | case4 a b c rest ih =>
    rcases hrest : sextets rest with _ | ⟨m, ms⟩
    · simp
    · rw [hrest] at h ih
      have hlast := ih (by simpa using h)
      simp only [List.length_cons] at hlast ⊢
      omega

theorem char_mem_alphabet {n : Nat} (h : n < 64) : char n ∈ alphabet := by
  by_contra hnot
  have hnone : number? (char n) = none := List.idxOf?_eq_none_iff.2 hnot
  rw [number?_char n h] at hnone
  cases hnone

theorem isSpace_char : ∀ n < 64, Value.isSpace (char n) = false := by
  decide +kernel

theorem canonical_of_decode {text : List Char} {bytes : List UInt8}
    (h : decode (Utf8.encode text) = .ok bytes) : Canonical text := by
  obtain ⟨k, hk, rfl⟩ := text_of_decode h
  have hunpadded := unpadded_append (pad_not_mem_chars bytes) k
  have hlength : ((sextets bytes).map char).length = (sextets bytes).length := List.length_map _
  constructor
  · rw [hunpadded]
    intro c hc
    obtain ⟨n, hn, rfl⟩ := List.mem_map.1 hc
    exact char_mem_alphabet (lt_of_mem_sextets hn)
  · intro c hc
    rcases List.mem_append.1 hc with hc | hc
    · obtain ⟨n, hn, rfl⟩ := List.mem_map.1 hc
      exact isSpace_char n (lt_of_mem_sextets hn)
    · rw [List.eq_of_mem_replicate hc]
      decide +kernel
  · rw [hunpadded]
    exact pad_not_mem_chars bytes
  · refine ⟨k, ?_, by rw [hunpadded]⟩
    rw [hunpadded, hlength, ← padding_eq]
    exact hk
  · rw [hunpadded, hlength]
    exact length_sextets_mod bytes
  · rw [hunpadded, hlength, List.getLast?_map]
    intro c hc n hn
    obtain ⟨m, hm, rfl⟩ := Option.map_eq_some_iff.1 hc
    rw [number?_char m (lt_of_mem_sextets (List.mem_of_getLast? hm))] at hn
    obtain rfl := Option.some.inj hn
    exact last_sextet hm

end Base64

/-! ## Values -/

theorem exists_bytes_of_base64Decode {v w : Value} (h : v.base64Decode = .ok w) :
    ∃ (t : String) (bytes : List UInt8), v = .string t ∧
      Base64.decode (Utf8.encode t.toList) = .ok bytes ∧
      w = .string (String.ofList (Utf8.decode bytes)) := by
  cases v with
  | string t =>
    unfold Value.base64Decode at h
    dsimp only at h
    split at h
    · rename_i bytes hbytes
      exact ⟨t, bytes, rfl, hbytes, (Except.ok.inj h).symm⟩
    · cases h
  | _ => cases h

/-- Base64 is read from a string, which then has the form that base64 is written in, but for the
padding at its end. When no bytes were replaced, the result tells the whole text but for that. -/
theorem accepted_base64_is_canonical (v w : Value) (h : v.base64Decode = .ok w) :
    ∃ t s : String, v = .string t ∧ w = .string s ∧ Base64.Canonical t.toList ∧
      ('\uFFFD' ∉ s.toList →
        w.base64Encode none =
            .ok (.string (String.ofList (Base64.padded (Base64.unpadded t.toList)))) ∧
          ∀ u : String, (Value.string u).base64Decode = .ok w →
            ∃ k, u.toList = Base64.unpadded t.toList ++ List.replicate k '=') := by
  obtain ⟨t, bytes, rfl, hbytes, rfl⟩ := exists_bytes_of_base64Decode h
  refine ⟨t, _, rfl, rfl, Base64.canonical_of_decode hbytes, fun hno => ?_⟩
  rw [String.toList_ofList] at hno
  obtain ⟨j, -, ht⟩ := Base64.text_of_decode hbytes
  have hsymbols : Base64.unpadded t.toList = (Base64.sextets bytes).map Base64.char := by
    rw [ht, Base64.unpadded_append (Base64.pad_not_mem_chars bytes)]
  rw [hsymbols]
  refine ⟨?_, fun u hu => ?_⟩
  · simp only [Value.base64Encode, Value.sourceBytes, Except.map, String.toList_ofList,
      Utf8.encode_decode hno, Base64.encode_eq_padded]
  · obtain ⟨u, others, hstring, hothers, htext⟩ := exists_bytes_of_base64Decode hu
    cases hstring
    -- Both texts were read from the same bytes, which are those of what was read.
    have hdecode : Utf8.decode bytes = Utf8.decode others :=
      String.ofList_inj.1 (Value.string.inj htext)
    have hsame : bytes = others := by
      rw [← Utf8.encode_decode hno, hdecode, Utf8.encode_decode (hdecode ▸ hno)]
    subst hsame
    obtain ⟨k, -, hu⟩ := Base64.text_of_decode hothers
    exact ⟨k, hu⟩

/-- A text with all of its padding and the same text with none of it. -/
theorem base64_of_two_letters_is_canonical_with_and_without_padding :
    (Value.string "aGk").base64Decode = .ok (.string "hi") ∧ Base64.Canonical "aGk".toList ∧
      (Value.string "hi").base64Encode none = .ok (.string "aGk=") ∧
      (Value.string "aGk=").base64Decode = .ok (.string "hi") := by
  have hshort : (Value.string "aGk").base64Decode = .ok (.string "hi") := rfl
  have hlong : (Value.string "aGk=").base64Decode = .ok (.string "hi") := rfl
  obtain ⟨t, s, ht, hs, hcanonical, hexact⟩ := accepted_base64_is_canonical _ _ hshort
  cases ht
  cases hs
  obtain ⟨hwritten, -⟩ := hexact (by decide)
  exact ⟨hshort, hcanonical, hwritten, hlong⟩

end Predefined
