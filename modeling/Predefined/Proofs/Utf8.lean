-- Text survives UTF-8. The bytes of a character are those of the standard, and reading them gives
-- the character and goes on behind them with nothing begun. So what was written is read back,
-- whatever stands behind it. The other way, bytes survive reading when none of them was replaced:
-- a character that has begun can only end as the one whose first bytes were read.
import Predefined.Encoding.Utf8

namespace Predefined.Utf8

/-! ## Writing -/

/-- Every character is a code point below the surrogates or between them and the end. -/
theorem toNat_range (c : Char) : c.toNat < 0xD800 ∨ 0xDFFF < c.toNat ∧ c.toNat < 0x110000 :=
  c.valid

/-- The bytes of a character are those of the standard library. -/
theorem encodeChar_eq_utf8EncodeChar (c : Char) : encodeChar c = String.utf8EncodeChar c := by
  have hrange := toNat_range c
  have hval : c.val.toNat = c.toNat := rfl
  unfold encodeChar String.utf8EncodeChar trailing
  simp only [hval]
  generalize c.toNat = n at *
  by_cases h₁ : n < 0x80
  · simp [h₁, show n ≤ 127 by omega]
  · by_cases h₂ : n < 0x800
    · simp only [h₁, h₂, show ¬ n ≤ 127 by omega, show n ≤ 2047 by omega, if_true, if_false]
      rw [show 0xC0 + n / 0x40 = n / 64 % 32 + 192 by omega, Nat.add_comm 0x80]
    · by_cases h₃ : n < 0x10000
      · simp only [h₁, h₂, h₃, show ¬ n ≤ 127 by omega, show ¬ n ≤ 2047 by omega,
          show n ≤ 65535 by omega, if_true, if_false]
        rw [show 0xE0 + n / 0x1000 = n / 4096 % 16 + 224 by omega, Nat.add_comm 0x80,
          Nat.add_comm 0x80]
      · simp only [h₁, h₂, h₃, show ¬ n ≤ 127 by omega, show ¬ n ≤ 2047 by omega,
          show ¬ n ≤ 65535 by omega, if_false]
        rw [show 0xF0 + n / 0x40000 = n / 262144 % 8 + 240 by omega, Nat.add_comm 0x80,
          Nat.add_comm 0x80, Nat.add_comm 0x80]

theorem toNat_trailing (n : Nat) : (trailing n).toNat = 0x80 + n % 0x40 := by
  rw [trailing, UInt8.toNat_ofNat']
  omega

theorem encodeChar_of_lt {c : Char} (h : c.toNat < 0x80) :
    encodeChar c = [UInt8.ofNat c.toNat] := by
  simp [encodeChar, h]

theorem encode_cons (c : Char) (s : List Char) : encode (c :: s) = encodeChar c ++ encode s :=
  List.flatMap_cons

/-- Text of ASCII is written with one byte for each character. -/
theorem encode_of_forall_lt {s : List Char} (h : ∀ c ∈ s, c.toNat < 0x80) :
    encode s = s.map fun c => UInt8.ofNat c.toNat := by
  induction s with
  | nil => rfl
  | cons c s ih =>
    have hc : c.toNat < 0x80 := h c List.mem_cons_self
    have hs : ∀ d ∈ s, d.toNat < 0x80 := fun d hd => h d (List.mem_cons_of_mem c hd)
    rw [encode_cons, encodeChar_of_lt hc, ih hs]
    rfl

theorem encode_append (s t : List Char) : encode (s ++ t) = encode s ++ encode t :=
  List.flatMap_append

/-- A character of ASCII is the character of its one byte. -/
theorem ofNat_toNat_byte {c : Char} (h : c.toNat < 0x80) :
    Char.ofNat (UInt8.ofNat c.toNat).toNat = c := by
  have hbyte : (UInt8.ofNat c.toNat).toNat = c.toNat := by
    rw [UInt8.toNat_ofNat']
    omega
  rw [hbyte, Char.ofNat_toNat]

theorem toNat_ofNat {n : Nat} (h : n < 0xD800 ∨ 0xDFFF < n ∧ n < 0x110000) :
    (Char.ofNat n).toNat = n := by
  unfold Char.ofNat
  rw [dif_pos h]
  rfl

theorem toNat_ofNat_of_lt (n : Nat) (h : n < 0x80) : (Char.ofNat n).toNat = n :=
  toNat_ofNat (by omega)

/-- Bytes of ASCII, taken as characters, are written as themselves. -/
theorem encode_map_ofNat {bytes : List UInt8} (h : ∀ b ∈ bytes, b.toNat < 0x80) :
    encode (bytes.map fun b => Char.ofNat b.toNat) = bytes := by
  have hchars : ∀ c ∈ bytes.map fun b => Char.ofNat b.toNat, c.toNat < 0x80 := by
    intro c hc
    obtain ⟨b, hb, rfl⟩ := List.mem_map.1 hc
    rw [toNat_ofNat_of_lt b.toNat (h b hb)]
    exact h b hb
  rw [encode_of_forall_lt hchars, List.map_map]
  refine (List.map_congr_left fun b hb => ?_).trans (List.map_id bytes)
  rw [Function.comp, toNat_ofNat_of_lt b.toNat (h b hb), UInt8.ofNat_toNat]
  rfl

/-- A character past ASCII has no byte of ASCII among its own. -/
theorem le_toNat_of_mem_encodeChar {c : Char} (h : 0x80 ≤ c.toNat) :
    ∀ b ∈ encodeChar c, 0x80 ≤ b.toNat := by
  have hrange := toNat_range c
  simp only [encodeChar, show ¬ c.toNat < 0x80 by omega, if_false]
  split
  · simp only [List.forall_mem_cons, toNat_trailing, UInt8.toNat_ofNat']
    exact ⟨by omega, by omega, by simp⟩
  · split
    · simp only [List.forall_mem_cons, toNat_trailing, UInt8.toNat_ofNat']
      exact ⟨by omega, by omega, by omega, by simp⟩
    · simp only [List.forall_mem_cons, toNat_trailing, UInt8.toNat_ofNat']
      exact ⟨by omega, by omega, by omega, by omega, by simp⟩

/-! ## Reading -/

theorem begin_one : ∀ n < 0x80, begin (UInt8.ofNat n) = ([Char.ofNat n], none) := by
  decide

/-- The first byte of two. No character needs one below `0xC2`. -/
theorem begin_two : ∀ n < 0x20, 2 ≤ n →
    begin (UInt8.ofNat (0xC0 + n)) = ([], some ⟨n, 1, 0x80, 0xBF⟩) := by
  decide

/-- The first byte of three. The range of the next one leaves out longer forms than needed, and the
surrogates. -/
theorem begin_three : ∀ n < 0x10, begin (UInt8.ofNat (0xE0 + n)) =
    ([], some ⟨n, 2, if n = 0 then 0xA0 else 0x80, if n = 0xD then 0x9F else 0xBF⟩) := by
  decide

/-- The first byte of four. The range of the next one leaves out longer forms than needed, and what
is past the last character. -/
theorem begin_four : ∀ n < 5, begin (UInt8.ofNat (0xF0 + n)) =
    ([], some ⟨n, 3, if n = 0 then 0x90 else 0x80, if n = 4 then 0x8F else 0xBF⟩) := by
  decide

theorem decodeFrom_begin {b : UInt8} {cs : List Char} {state : Option Unfinished}
    (bs : List UInt8) (h : begin b = (cs, state)) :
    decodeFrom none (b :: bs) = cs ++ decodeFrom state bs := by
  rw [decodeFrom, step, h]

/-- A byte that continues the character that has begun, and leaves some owed. -/
theorem decodeFrom_trailing {bits owed low high : Nat} (n : Nat) (bs : List UInt8)
    (howed : owed ≠ 1) (hlow : low ≤ 0x80 + n % 0x40) (hhigh : 0x80 + n % 0x40 ≤ high) :
    decodeFrom (some ⟨bits, owed, low, high⟩) (trailing n :: bs) =
      decodeFrom (some ⟨bits * 0x40 + n % 0x40, owed - 1, 0x80, 0xBF⟩) bs := by
  have hbits : (0x80 + n % 0x40) % 0x40 = n % 0x40 := by omega
  simp [decodeFrom, step, toNat_trailing, howed, hlow, hhigh, hbits]

/-- A byte that ends the character that has begun. -/
theorem decodeFrom_last {bits low high : Nat} (n : Nat) (bs : List UInt8)
    (hlow : low ≤ 0x80 + n % 0x40) (hhigh : 0x80 + n % 0x40 ≤ high) :
    decodeFrom (some ⟨bits, 1, low, high⟩) (trailing n :: bs) =
      Char.ofNat (bits * 0x40 + n % 0x40) :: decodeFrom none bs := by
  have hbits : (0x80 + n % 0x40) % 0x40 = n % 0x40 := by omega
  simp [decodeFrom, step, toNat_trailing, hlow, hhigh, hbits]

/-- A character is read back from its bytes, whatever stands behind them. -/
theorem decodeFrom_encodeChar (c : Char) (bs : List UInt8) :
    decodeFrom none (encodeChar c ++ bs) = c :: decodeFrom none bs := by
  have hrange := toNat_range c
  have hc : c = Char.ofNat c.toNat := (Char.ofNat_toNat c).symm
  unfold encodeChar
  generalize c.toNat = n at *
  subst hc
  by_cases h₁ : n < 0x80
  · simp only [h₁, if_true, List.cons_append, List.nil_append]
    rw [decodeFrom_begin bs (begin_one n h₁)]
    rfl
  · by_cases h₂ : n < 0x800
    · simp only [h₁, h₂, if_true, if_false, List.cons_append, List.nil_append]
      rw [decodeFrom_begin _ (begin_two (n / 0x40) (by omega) (by omega)), List.nil_append,
        decodeFrom_last n bs (by omega) (by omega)]
      rw [show n / 0x40 * 0x40 + n % 0x40 = n by omega]
    · by_cases h₃ : n < 0x10000
      · simp only [h₁, h₂, h₃, if_true, if_false, List.cons_append, List.nil_append]
        rw [decodeFrom_begin _ (begin_three (n / 0x1000) (by omega)), List.nil_append,
          decodeFrom_trailing (n / 0x40) _ (by omega) (by split <;> omega) (by split <;> omega),
          decodeFrom_last n bs (by omega) (by omega)]
        rw [show (n / 0x1000 * 0x40 + n / 0x40 % 0x40) * 0x40 + n % 0x40 = n by omega]
      · simp only [h₁, h₂, h₃, if_false, List.cons_append, List.nil_append]
        rw [decodeFrom_begin _ (begin_four (n / 0x40000) (by omega)), List.nil_append,
          decodeFrom_trailing (n / 0x1000) _ (by omega) (by split <;> omega) (by split <;> omega),
          decodeFrom_trailing (n / 0x40) _ (by omega) (by omega) (by omega),
          decodeFrom_last n bs (by omega) (by omega)]
        rw [show ((n / 0x40000 * 0x40 + n / 0x1000 % 0x40) * 0x40 + n / 0x40 % 0x40) * 0x40
          + n % 0x40 = n by omega]

theorem decode_encode (s : List Char) : decode (encode s) = s := by
  induction s with
  | nil => rfl
  | cons c s ih =>
    rw [decode, encode_cons, decodeFrom_encodeChar, ← decode, ih]

/-! ## Reading without replacement -/

/-- The bytes that end a character which has begun, and its number. -/
inductive Completes : Unfinished → List UInt8 → Nat → Prop
  | last {u : Unfinished} {b : UInt8} (howed : u.owed = 1) (hlow : u.low ≤ b.toNat)
    (hhigh : b.toNat ≤ u.high) : Completes u [b] (u.bits * 0x40 + b.toNat % 0x40)
  | more {u : Unfinished} {b : UInt8} {bs : List UInt8} {n : Nat} (howed : u.owed ≠ 1)
    (hlow : u.low ≤ b.toNat) (hhigh : b.toNat ≤ u.high)
    (h : Completes ⟨u.bits * 0x40 + b.toNat % 0x40, u.owed - 1, 0x80, 0xBF⟩ bs n) :
    Completes u (b :: bs) n

/-- A character has begun with these bytes: whatever ends it, they are its first ones. -/
def Begun (bytes : List UInt8) (u : Unfinished) : Prop :=
  ∀ bs n, Completes u bs n → encodeChar (Char.ofNat n) = bytes ++ bs

theorem Completes.of_owed_one {u : Unfinished} {bs : List UInt8} {n : Nat} (h : Completes u bs n)
    (howed : u.owed = 1) :
    ∃ c : UInt8, bs = [c] ∧ u.low ≤ c.toNat ∧ c.toNat ≤ u.high ∧
      n = u.bits * 0x40 + c.toNat % 0x40 := by
  cases h with
  | last _ hlow hhigh => exact ⟨_, rfl, hlow, hhigh, rfl⟩
  | more hmore => exact absurd howed hmore

theorem Completes.of_owed_more {u : Unfinished} {bs : List UInt8} {n : Nat} (h : Completes u bs n)
    (howed : u.owed ≠ 1) :
    ∃ (c : UInt8) (rest : List UInt8), bs = c :: rest ∧ u.low ≤ c.toNat ∧ c.toNat ≤ u.high ∧
      Completes ⟨u.bits * 0x40 + c.toNat % 0x40, u.owed - 1, 0x80, 0xBF⟩ rest n := by
  cases h with
  | last hlast => exact absurd hlast howed
  | more _ hlow hhigh h => exact ⟨_, _, rfl, hlow, hhigh, h⟩

/-- A byte that continues a character is one of its first bytes, too. -/
theorem Begun.more {bytes : List UInt8} {u : Unfinished} {b : UInt8} (h : Begun bytes u)
    (howed : u.owed ≠ 1) (hlow : u.low ≤ b.toNat) (hhigh : b.toNat ≤ u.high) :
    Begun (bytes ++ [b]) ⟨u.bits * 0x40 + b.toNat % 0x40, u.owed - 1, 0x80, 0xBF⟩ := by
  intro bs n hbs
  rw [h (b :: bs) n (.more howed hlow hhigh hbs), List.append_assoc, List.singleton_append]

theorem ofNat_eq_byte {n : Nat} {b : UInt8} (h : n = b.toNat) : UInt8.ofNat n = b := by
  rw [h, UInt8.ofNat_toNat]

theorem trailing_eq {n : Nat} {b : UInt8} (hlow : 0x80 ≤ b.toNat) (hhigh : b.toNat ≤ 0xBF)
    (h : n % 0x40 = b.toNat % 0x40) : trailing n = b := by
  apply ofNat_eq_byte
  omega

theorem begun_two {b : UInt8} (hlow : 0xC2 ≤ b.toNat) (hhigh : b.toNat < 0xE0) :
    Begun [b] ⟨b.toNat - 0xC0, 1, 0x80, 0xBF⟩ := by
  intro bs n h
  obtain ⟨c, rfl, hc, hc', rfl⟩ := h.of_owed_one rfl
  dsimp only at hc hc' ⊢
  unfold encodeChar
  rw [toNat_ofNat (by omega)]
  dsimp only
  rw [if_neg (by omega), if_pos (by omega), ofNat_eq_byte (b := b) (by omega),
    trailing_eq hc hc' (by omega)]
  rfl

/-- Three bytes of one character: their bits make a number of at least 12 bits and no surrogate. -/
theorem begun_three {b : UInt8} {low high : Nat} (hlow : 0xE0 ≤ b.toNat) (hhigh : b.toNat < 0xF0)
    (hlow' : 0x80 ≤ low) (hhigh' : high ≤ 0xBF) (hlong : b.toNat = 0xE0 → 0xA0 ≤ low)
    (hsurrogate : b.toNat = 0xED → high ≤ 0x9F) :
    Begun [b] ⟨b.toNat - 0xE0, 2, low, high⟩ := by
  intro bs n h
  obtain ⟨c, rest, rfl, hc, hc', h⟩ := h.of_owed_more (by simp)
  obtain ⟨d, rfl, hd, hd', rfl⟩ := h.of_owed_one rfl
  dsimp only at hc hc' hd hd' ⊢
  unfold encodeChar
  rw [toNat_ofNat (by omega)]
  dsimp only
  rw [if_neg (by omega), if_neg (by omega), if_pos (by omega), ofNat_eq_byte (b := b) (by omega),
    trailing_eq (b := c) (by omega) (by omega) (by omega), trailing_eq hd hd' (by omega)]
  rfl

theorem begun_four {b : UInt8} {low high : Nat} (hlow : 0xF0 ≤ b.toNat) (hhigh : b.toNat < 0xF5)
    (hlow' : 0x80 ≤ low) (hhigh' : high ≤ 0xBF) (hlong : b.toNat = 0xF0 → 0x90 ≤ low)
    (hlast : b.toNat = 0xF4 → high ≤ 0x8F) :
    Begun [b] ⟨b.toNat - 0xF0, 3, low, high⟩ := by
  intro bs n h
  obtain ⟨c, rest, rfl, hc, hc', h⟩ := h.of_owed_more (by simp)
  obtain ⟨d, rest, rfl, hd, hd', h⟩ := h.of_owed_more (by simp)
  obtain ⟨e, rfl, he, he', rfl⟩ := h.of_owed_one rfl
  dsimp only at hc hc' hd hd' he he' ⊢
  unfold encodeChar
  rw [toNat_ofNat (by omega)]
  dsimp only
  rw [if_neg (by omega), if_neg (by omega), if_neg (by omega), ofNat_eq_byte (b := b) (by omega),
    trailing_eq (b := c) (by omega) (by omega) (by omega),
    trailing_eq (b := d) (by omega) (by omega) (by omega), trailing_eq he he' (by omega)]
  rfl

/-- No character begins with a trailing byte, with the first byte of a longer form than needed, or
with one past the last character. -/
theorem begin_none : ∀ n < 0x100, 0x80 ≤ n → n < 0xC2 ∨ 0xF5 ≤ n →
    begin (UInt8.ofNat n) = ([replacement], none) := by
  decide +kernel

/-- A first byte is a character of ASCII, is no beginning at all, or begins one. -/
theorem begin_cases (b : UInt8) :
    b.toNat < 0x80 ∧ begin b = ([Char.ofNat b.toNat], none) ∨ begin b = ([replacement], none) ∨
      ∃ u, begin b = ([], some u) ∧ Begun [b] u := by
  have hb : ∀ k ≤ b.toNat, UInt8.ofNat (k + (b.toNat - k)) = b :=
    fun k hk => ofNat_eq_byte (by omega)
  have hlt := b.toNat_lt
  by_cases h₁ : b.toNat < 0x80
  · exact Or.inl ⟨h₁, if_pos h₁⟩
  · refine Or.inr ?_
    by_cases h₂ : b.toNat < 0xC2
    · refine Or.inl ?_
      rw [← begin_none b.toNat hlt (by omega) (by omega), UInt8.ofNat_toNat]
    · by_cases h₃ : b.toNat < 0xE0
      · have hbegin := begin_two (b.toNat - 0xC0) (by omega) (by omega)
        rw [hb 0xC0 (by omega)] at hbegin
        exact Or.inr ⟨_, hbegin, begun_two (by omega) h₃⟩
      · by_cases h₄ : b.toNat < 0xF0
        · have hbegin := begin_three (b.toNat - 0xE0) (by omega)
          rw [hb 0xE0 (by omega)] at hbegin
          refine Or.inr ⟨_, hbegin, begun_three (by omega) h₄ ?_ ?_ ?_ ?_⟩
          all_goals split <;> omega
        · by_cases h₅ : b.toNat < 0xF5
          · have hbegin := begin_four (b.toNat - 0xF0) (by omega)
            rw [hb 0xF0 (by omega)] at hbegin
            refine Or.inr ⟨_, hbegin, begun_four (by omega) h₅ ?_ ?_ ?_ ?_⟩
            all_goals split <;> omega
          · refine Or.inl ?_
            rw [← begin_none b.toNat hlt (by omega) (by omega), UInt8.ofNat_toNat]

/-- Text is written with the bytes that it was read from when nothing had to be replaced. Where a
character has begun, the bytes that began it stand in front. -/
theorem encode_decodeFrom (bs : List UInt8) :
    (replacement ∉ decodeFrom none bs → encode (decodeFrom none bs) = bs) ∧
      ∀ begun u, Begun begun u → replacement ∉ decodeFrom (some u) bs →
        encode (decodeFrom (some u) bs) = begun ++ bs := by
  induction bs with
  | nil => exact ⟨fun _ => rfl, fun _ _ _ h => absurd List.mem_cons_self h⟩
  | cons b bs ih =>
    obtain ⟨ihnone, ihsome⟩ := ih
    constructor
    · intro h
      rcases begin_cases b with ⟨hlt, hb⟩ | hb | ⟨u, hb, hu⟩
      · rw [decodeFrom_begin bs hb, List.singleton_append] at h ⊢
        rw [List.mem_cons, not_or] at h
        have hchar : encodeChar (Char.ofNat b.toNat) = [b] := by
          rw [encodeChar_of_lt (by rwa [toNat_ofNat_of_lt _ hlt]), toNat_ofNat_of_lt _ hlt,
            UInt8.ofNat_toNat]
        rw [encode_cons, hchar, ihnone h.2, List.singleton_append]
      · rw [decodeFrom_begin bs hb] at h
        exact absurd List.mem_cons_self h
      · rw [decodeFrom_begin bs hb, List.nil_append] at h ⊢
        exact ihsome [b] u hu h
    · intro begun u hu h
      by_cases hrange : u.low ≤ b.toNat ∧ b.toNat ≤ u.high
      · by_cases howed : u.owed = 1
        · have hlast : decodeFrom (some u) (b :: bs) =
              Char.ofNat (u.bits * 0x40 + b.toNat % 0x40) :: decodeFrom none bs := by
            simp [decodeFrom, step, hrange, howed]
          have hchar := hu [b] _ (.last howed hrange.1 hrange.2)
          rw [hlast] at h ⊢
          rw [List.mem_cons, not_or] at h
          rw [encode_cons, hchar, ihnone h.2, List.append_assoc, List.singleton_append]
        · have hmore : decodeFrom (some u) (b :: bs) =
              decodeFrom (some ⟨u.bits * 0x40 + b.toNat % 0x40, u.owed - 1, 0x80, 0xBF⟩) bs := by
            simp [decodeFrom, step, hrange, howed]
          have hnext := hu.more howed hrange.1 hrange.2
          rw [hmore] at h ⊢
          rw [ihsome _ _ hnext h, List.append_assoc, List.singleton_append]
      · have hbroken : replacement ∈ decodeFrom (some u) (b :: bs) := by
          simp [decodeFrom, step, hrange]
        exact absurd hbroken h

theorem encode_decode {bytes : List UInt8} (h : replacement ∉ decode bytes) :
    encode (decode bytes) = bytes :=
  (encode_decodeFrom bytes).1 h

end Predefined.Utf8
