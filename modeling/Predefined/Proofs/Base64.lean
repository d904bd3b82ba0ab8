-- Base64 is undone, with all of its padding or with less. A written text is the symbols of its
-- sextets and then the padding, which says nothing that the number of symbols does not say. So
-- reading goes by the sextets: whole quads give three bytes each, and the last quad gives its bytes
-- whatever is left of the padding.
import Predefined.Proofs.Utf8
import Predefined.Value.Coding

namespace Predefined

namespace Base64

/-! ## Sextets -/

/-- The sextets of bytes, the last one filled up with zero bits. -/
def sextets : List UInt8 → List Nat
  | [] => []
  | [a] => [a.toNat / 4, a.toNat % 4 * 16]
  | [a, b] => [a.toNat / 4, a.toNat % 4 * 16 + b.toNat / 16, b.toNat % 16 * 4]
  | a :: b :: c :: rest =>
    a.toNat / 4 :: (a.toNat % 4 * 16 + b.toNat / 16) :: (b.toNat % 16 * 4 + c.toNat / 64)
      :: c.toNat % 64 :: sextets rest

/-- How much padding fills up the last quad. -/
def padding : List UInt8 → Nat
  | [] => 0
  | [_] => 2
  | [_, _] => 1
  | _ :: _ :: _ :: rest => padding rest

theorem encode_eq (bytes : List UInt8) :
    encode bytes = (sextets bytes).map symbol ++ List.replicate (padding bytes) pad := by
  fun_induction encode bytes with
  | case1 => rfl
  | case2 a => rfl
  | case3 a b => rfl
  | case4 a b c rest ih => rw [ih]; rfl

theorem lt_of_mem_sextets {bytes : List UInt8} {n : Nat} (h : n ∈ sextets bytes) : n < 64 := by
  fun_induction sextets bytes with
  | case1 => simp at h
  | case2 a =>
    have := a.toNat_lt
    simp only [List.mem_cons, List.not_mem_nil, or_false] at h
    omega
  | case3 a b =>
    have := a.toNat_lt
    have := b.toNat_lt
    simp only [List.mem_cons, List.not_mem_nil, or_false] at h
    omega
  | case4 a b c rest ih =>
    have := a.toNat_lt
    have := b.toNat_lt
    have := c.toNat_lt
    simp only [List.mem_cons] at h
    rcases h with h | h | h | h | h
    · omega
    · omega
    · omega
    · omega
    · exact ih h

theorem sextets_ne_nil {bytes : List UInt8} (h : bytes ≠ []) : sextets bytes ≠ [] := by
  match bytes, h with
  | [_], _ | [_, _], _ | _ :: _ :: _ :: _, _ => simp [sextets]

/-! ## Symbols -/

theorem value?_symbol : ∀ n < 64, value? (symbol n) = some n := by
  decide

theorem symbol_ne_pad : ∀ n < 64, symbol n ≠ pad := by
  decide

theorem symbol_lt : ∀ n < 64, (symbol n).toNat < 0x80 := by
  decide

theorem valueAt_symbol (offset : Nat) {n : Nat} (h : n < 64) :
    valueAt offset (symbol n) = .ok n := by
  rw [valueAt, value?_symbol n h]

theorem valuesFrom_symbols (offset : Nat) {ns : List Nat} (h : ∀ n ∈ ns, n < 64) :
    valuesFrom offset (ns.map symbol) = .ok ns := by
  induction ns generalizing offset with
  | nil => rfl
  | cons n ns ih =>
    have hns : ∀ m ∈ ns, m < 64 := fun m hm => h m (List.mem_cons_of_mem n hm)
    rw [List.map_cons, valuesFrom, valueAt_symbol offset (h n List.mem_cons_self),
      ih (offset + 1) hns]
    rfl

/-! ## The last quad -/

theorem decodeFrom_of_length_le {quad : List UInt8} (offset : Nat) (h : quad.length ≤ 4) :
    decodeFrom offset quad = decodeLast offset quad := by
  match quad with
  | [] | [_] | [_, _] | [_, _, _] | [_, _, _, _] => rfl
  | _ :: _ :: _ :: _ :: _ :: _ =>
    simp only [List.length_cons] at h
    omega

/-- The last quad gives the bytes of its sextets, however much padding stands behind them. -/
theorem decodeLast_symbols (offset : Nat) {ns : List Nat} {k : Nat} (hns : ∀ n ∈ ns, n < 64)
    (hk : k = 0 ∨ 2 ≤ ns.length) :
    decodeLast offset (ns.map symbol ++ List.replicate k pad) = lastBytes offset ns := by
  have hsymbols : ∀ b ∈ ns.map symbol, (b != pad) = true := by
    intro b hb
    obtain ⟨n, hn, rfl⟩ := List.mem_map.1 hb
    simpa using symbol_ne_pad n (hns n hn)
  have htake : (ns.map symbol ++ List.replicate k pad).takeWhile (· != pad) = ns.map symbol := by
    rw [List.takeWhile_append_of_pos hsymbols]
    cases k <;> simp [List.replicate_succ]
  have hdrop : (ns.map symbol ++ List.replicate k pad).dropWhile (· != pad) =
      List.replicate k pad := by
    rw [List.dropWhile_append_of_pos hsymbols]
    cases k <;> simp [List.replicate_succ]
  have hplace : (!(List.replicate k pad).isEmpty &&
      (decide ((ns.map symbol).length < 2) || (List.replicate k pad).any (· != pad))) = false := by
    rcases hk with rfl | hk
    · rfl
    · simp [show ¬ ns.length < 2 by omega]
  rw [decodeLast, htake, hdrop, valuesFrom_symbols offset hns, hplace]
  rfl

/-! ## Reading -/

/-- Numbers that differ from a byte by whole bytes only are that byte. -/
theorem ofNat_eq {a : UInt8} {n : Nat} (h : n % 256 = a.toNat) : UInt8.ofNat n = a := by
  apply UInt8.toNat_inj.1
  rw [UInt8.toNat_ofNat', h]

theorem triple_sextets (a b c : UInt8) :
    triple (a.toNat / 4) (a.toNat % 4 * 16 + b.toNat / 16) (b.toNat % 16 * 4 + c.toNat / 64)
      (c.toNat % 64) = [a, b, c] := by
  have ha := a.toNat_lt
  have hb := b.toNat_lt
  have hc := c.toNat_lt
  rw [triple, ofNat_eq (a := a) (by omega), ofNat_eq (a := b) (by omega),
    ofNat_eq (a := c) (by omega)]

theorem lastBytes_one (offset : Nat) (a : UInt8) : lastBytes offset (sextets [a]) = .ok [a] := by
  have ha := a.toNat_lt
  rw [sextets, lastBytes, if_pos (by omega), ofNat_eq (a := a) (by omega)]

theorem lastBytes_two (offset : Nat) (a b : UInt8) :
    lastBytes offset (sextets [a, b]) = .ok [a, b] := by
  have ha := a.toNat_lt
  have hb := b.toNat_lt
  rw [sextets, lastBytes, if_pos (by omega), ofNat_eq (a := a) (by omega),
    ofNat_eq (a := b) (by omega)]

theorem lastBytes_three (offset : Nat) (a b c : UInt8) :
    lastBytes offset (sextets [a, b, c]) = .ok [a, b, c] := by
  rw [sextets, sextets, lastBytes, triple_sextets]

/-- The first of several quads gives its three bytes. -/
theorem decodeFrom_quad (a b c : UInt8) (offset : Nat) {quads : List UInt8} (h : quads ≠ []) :
    decodeFrom offset ((sextets [a, b, c]).map symbol ++ quads) =
      (decodeFrom (offset + 4) quads).map ([a, b, c] ++ ·) := by
  have hlt : ∀ n ∈ sextets [a, b, c], n < 64 := fun n => lt_of_mem_sextets
  simp only [sextets, List.forall_mem_cons] at hlt
  obtain ⟨h₁, h₂, h₃, h₄, -⟩ := hlt
  cases quads with
  | nil => exact absurd rfl h
  | cons q quads =>
    simp only [sextets, List.map_cons, List.map_nil, List.cons_append, List.nil_append]
    rw [decodeFrom, valueAt_symbol _ h₁, valueAt_symbol _ h₂, valueAt_symbol _ h₃,
      valueAt_symbol _ h₄]
    rcases decodeFrom (offset + 4) (q :: quads) with _ | bytes
    · rfl
    · show Except.ok (triple _ _ _ _ ++ bytes) = _
      rw [triple_sextets]
      rfl

/-- Text is read back with as much of its padding as one likes. -/
theorem decodeFrom_sextets (bytes : List UInt8) (offset : Nat) {k : Nat} (hk : k ≤ padding bytes) :
    decodeFrom offset ((sextets bytes).map symbol ++ List.replicate k pad) = .ok bytes := by
  induction bytes using sextets.induct generalizing offset with
  | case1 =>
    obtain rfl : k = 0 := Nat.le_zero.1 hk
    rfl
  | case2 a =>
    have hk₂ : k ≤ 2 := hk
    rw [decodeFrom_of_length_le offset (by simp [sextets]; omega),
      decodeLast_symbols offset (fun n => lt_of_mem_sextets) (Or.inr (by simp [sextets])),
      lastBytes_one]
  | case3 a b =>
    have hk₁ : k ≤ 1 := hk
    rw [decodeFrom_of_length_le offset (by simp [sextets]; omega),
      decodeLast_symbols offset (fun n => lt_of_mem_sextets) (Or.inr (by simp [sextets])),
      lastBytes_two]
  | case4 a b c rest ih =>
    by_cases hrest : rest = []
    · subst hrest
      obtain rfl : k = 0 := Nat.le_zero.1 hk
      rw [decodeFrom_of_length_le offset (by simp [sextets]),
        decodeLast_symbols offset (fun n => lt_of_mem_sextets) (Or.inl rfl), lastBytes_three]
    · have hquads : (sextets rest).map symbol ++ List.replicate k pad ≠ [] := by
        simp [sextets_ne_nil hrest]
      have hsplit : (sextets (a :: b :: c :: rest)).map symbol ++ List.replicate k pad =
          (sextets [a, b, c]).map symbol ++
            ((sextets rest).map symbol ++ List.replicate k pad) := rfl
      rw [hsplit, decodeFrom_quad a b c offset hquads, ih (offset + 4) hk]
      rfl

/-- No byte stands alone that could belong to no text. -/
theorem strayLast?_eq_none {text : List UInt8}
    (h : ∀ b ∈ text, b = pad ∨ (value? b).isSome = true) : strayLast? text = none := by
  unfold strayLast?
  split
  · split
    · rename_i b hlast
      rw [if_pos (h b (List.mem_of_getLast? hlast))]
    · rfl
  · rfl

/-- When a list goes on with copies of something only, what is left of it without some of them has
the same beginning and fewer copies. -/
theorem exists_of_append_replicate {α : Type} {p : α} {l s : List α} {k n : Nat} (hs : p ∉ s)
    (h : s ++ List.replicate n p = l ++ List.replicate k p) :
    ∃ j ≤ n, l = s ++ List.replicate j p := by
  rcases List.append_eq_append_iff.1 h with ⟨xs, hl, hxs⟩ | ⟨xs, hl, hxs⟩
  · obtain ⟨hlen, hfirst, -⟩ := List.replicate_eq_append_iff.1 hxs
    exact ⟨xs.length, by omega, by rw [hl, ← hfirst]⟩
  · -- What the text lacks besides would be copies inside the beginning.
    obtain ⟨-, hfirst, -⟩ := List.replicate_eq_append_iff.1 hxs
    have hnil : xs = [] := by
      refine List.eq_nil_iff_forall_not_mem.2 fun x hx => hs ?_
      have hxp : x = p := by
        rw [hfirst] at hx
        exact List.eq_of_mem_replicate hx
      rw [hl, ← hxp]
      exact List.mem_append_right l hx
    exact ⟨0, Nat.zero_le n, by simp [hl, hnil]⟩

/-- A written text is read back when any number of the padding signs at its end is deleted. -/
theorem decode_of_encode_eq {bytes text : List UInt8} {k : Nat}
    (h : encode bytes = text ++ List.replicate k pad) : decode text = .ok bytes := by
  rw [encode_eq] at h
  have hpad : pad ∉ (sextets bytes).map symbol := by
    intro hmem
    obtain ⟨n, hn, hsymbol⟩ := List.mem_map.1 hmem
    exact symbol_ne_pad n (lt_of_mem_sextets hn) hsymbol
  obtain ⟨j, hj, rfl⟩ := exists_of_append_replicate hpad h
  have hstray : strayLast? ((sextets bytes).map symbol ++ List.replicate j pad) = none := by
    refine strayLast?_eq_none fun b hb => ?_
    rcases List.mem_append.1 hb with hb | hb
    · obtain ⟨n, hn, rfl⟩ := List.mem_map.1 hb
      rw [value?_symbol n (lt_of_mem_sextets hn)]
      exact Or.inr rfl
    · exact Or.inl (List.eq_of_mem_replicate hb)
  rw [decode, hstray]
  exact decodeFrom_sextets bytes 0 hj

/-- Symbols and padding are ASCII. -/
theorem toNat_lt_of_mem_symbols {bytes : List UInt8} {k : Nat} {b : UInt8}
    (h : b ∈ (sextets bytes).map symbol ++ List.replicate k pad) : b.toNat < 0x80 := by
  rcases List.mem_append.1 h with h | h
  · obtain ⟨n, hn, rfl⟩ := List.mem_map.1 h
    exact symbol_lt n (lt_of_mem_sextets hn)
  · rw [List.eq_of_mem_replicate h]
    decide

theorem toNat_lt_of_mem_encode {bytes : List UInt8} {b : UInt8} (h : b ∈ encode bytes) :
    b.toNat < 0x80 := by
  rw [encode_eq] at h
  exact toNat_lt_of_mem_symbols h

end Base64

/-! ## Text -/

/-- Both character sets of single bytes write text of ASCII as UTF-8 does. -/
theorem map_encodeByte_eq_utf8 {last : Nat} {s : List Char} (hlast : 0x7F ≤ last)
    (h : ∀ c ∈ s, c.toNat < 0x80) : s.map (Charset.encodeByte last) = Utf8.encode s := by
  rw [Utf8.encode_of_forall_lt h]
  refine List.map_congr_left fun c hc => ?_
  have hc' : c.toNat < 0x80 := h c hc
  rw [Charset.encodeByte, if_pos (by omega)]

/-- Reading base64 gives the text that was written, in UTF-8 or, when it is plain ASCII, in a
character set that writes ASCII alike. Any number of the padding signs at the end may be missing. -/
theorem base64_decoding_undoes_encoding (s : String) (charset : Option Value)
    (h : charset = none ∨ ∃ name c, charset = some (.string name) ∧
      Charset.resolve "base64Encode" name = .ok c ∧
      (c = .utf8 ∨ (c = .usAscii ∨ c = .latin1) ∧ ∀ char ∈ s.toList, char.toNat < 0x80)) :
    ∃ t : String, Value.base64Encode (.string s) charset = .ok (.string t) ∧
      Value.base64Decode (.string t) = .ok (.string s) ∧
      ∀ (u : String) (k : Nat), t.toList = u.toList ++ List.replicate k '=' →
        Value.base64Decode (.string u) = .ok (.string s) := by
  have hbytes : Value.sourceBytes "base64Encode" (.string s) charset =
      .ok (Utf8.encode s.toList) := by
    rcases h with rfl | ⟨name, c, rfl, hresolve, hc⟩
    · rfl
    · rw [Value.sourceBytes, hresolve]
      rcases hc with rfl | ⟨rfl | rfl, hascii⟩
      · rfl
      · exact congrArg Except.ok (map_encodeByte_eq_utf8 (by decide) hascii)
      · exact congrArg Except.ok (map_encodeByte_eq_utf8 (by decide) hascii)
  let written := (Base64.encode (Utf8.encode s.toList)).map fun b => Char.ofNat b.toNat
  have hdecode : ∀ (u : String) (k : Nat), written = u.toList ++ List.replicate k '=' →
      Value.base64Decode (.string u) = .ok (.string s) := by
    intro u k hu
    have hpad : Utf8.encode (List.replicate k '=') = List.replicate k Base64.pad := by
      rw [Utf8.encode_of_forall_lt fun c hc => by rw [List.eq_of_mem_replicate hc]; decide,
        List.map_replicate]
      rfl
    have hencode : Base64.encode (Utf8.encode s.toList) =
        Utf8.encode u.toList ++ List.replicate k Base64.pad := by
      rw [← hpad, ← Utf8.encode_append, ← hu,
        Utf8.encode_map_ofNat fun b => Base64.toNat_lt_of_mem_encode]
    rw [Value.base64Decode, Base64.decode_of_encode_eq hencode]
    simp only [Utf8.decode_encode, String.ofList_toList]
  refine ⟨String.ofList written, ?_, ?_, fun u k hu => hdecode u k ?_⟩
  · rw [Value.base64Encode, hbytes]
    rfl
  · exact hdecode _ 0 (by simp)
  · rw [← hu, String.toList_ofList]

/-- A letter past ASCII in UTF-8, under a name in mixed case, read back without its padding. -/
theorem base64_of_a_letter_reads_back_without_padding :
    Value.base64Encode (.string "τ") (some (.string "Utf-8")) = .ok (.string "z4Q=") ∧
      Value.base64Decode (.string "z4Q") = .ok (.string "τ") := by
  have hname : Charset.resolve "base64Encode" "Utf-8" = .ok .utf8 := rfl
  have hwritten : Value.base64Encode (.string "τ") (some (.string "Utf-8")) =
      .ok (.string "z4Q=") := rfl
  obtain ⟨t, ht, -, hdecode⟩ :=
    base64_decoding_undoes_encoding "τ" (some (.string "Utf-8"))
      (Or.inr ⟨"Utf-8", .utf8, rfl, hname, Or.inl rfl⟩)
  rw [hwritten] at ht
  cases ht
  exact ⟨hwritten, hdecode "z4Q" 1 rfl⟩

end Predefined
