-- The texts of a JSON document, and that each of them reads back. Between the parts of a text any
-- blanks may stand, so the compact and the indented text are two of many. Reading is shown once for
-- all of them, by induction on how a text is put together.
import Predefined.Proofs.Digits
import Predefined.Proofs.JsonString

namespace Predefined.Json

/-! ## Blanks -/

def Blanks (s : List Char) : Prop :=
  ∀ c ∈ s, isBlank c = true

theorem skipBlanks_append {b : List Char} (h : Blanks b) (s : List Char) :
    skipBlanks (b ++ s) = skipBlanks s :=
  List.dropWhile_append_of_pos h

theorem skipBlanks_cons {c : Char} (h : isBlank c = false) (s : List Char) :
    skipBlanks (c :: s) = c :: s := by
  rw [skipBlanks, List.dropWhile_cons, h, if_neg Bool.false_ne_true]

theorem skipBlanks_skipBlanks (s : List Char) : skipBlanks (skipBlanks s) = skipBlanks s := by
  induction s with
  | nil => rfl
  | cons c s ih =>
    rcases h : isBlank c with _ | _
    · rw [skipBlanks_cons h, skipBlanks_cons h]
    · have hdrop : skipBlanks (c :: s) = skipBlanks s := List.dropWhile_cons_of_pos h
      rw [hdrop, ih]

/-! ## Numbers -/

/-- A numeral as documents have it: digits before the point that do not start with a zero, unless
it is the only one, and digits in an exponent. -/
structure Numeral.WellFormed (n : Numeral) : Prop where
  whole_ne_nil : n.whole ≠ []
  head_ne_zero : ∀ d d' ds, n.whole = d :: d' :: ds → d ≠ Digit.zero
  exponent_ne_nil : ∀ negative ds, n.exponent = some (negative, ds) → ds ≠ []

/-- A text that does not go on with a part of a number. -/
def EndsNumber (s : List Char) : Prop :=
  ∀ c ∈ s.head?, Digit.ofChar? c = none ∧ c ≠ '.' ∧ c ≠ 'e' ∧ c ≠ 'E'

theorem EndsNumber.stopsDigits {s : List Char} (h : EndsNumber s) : Decimal.StopsDigits s :=
  fun c hc => (h c hc).1

theorem readWhole_chars {whole : List Digit} {rest : List Char} (hne : whole ≠ [])
    (hhead : ∀ d d' ds, whole = d :: d' :: ds → d ≠ Digit.zero)
    (hrest : Decimal.StopsDigits rest) :
    readWhole (Decimal.chars whole ++ rest) = some (whole, rest) := by
  rw [readWhole, Decimal.scan_chars_append whole hrest]
  match whole, hne with
  | [d], _ => rfl
  | d :: d' :: ds, _ => simp [hhead d d' ds rfl]

/-- The fraction of a numeral, nothing when it is empty. -/
def fractionChars (fraction : List Digit) : List Char :=
  if fraction.isEmpty then [] else '.' :: Decimal.chars fraction

def exponentChars : Option (Bool × List Digit) → List Char
  | none => []
  | some (negative, ds) => 'e' :: (if negative then '-' else '+') :: Decimal.chars ds

/-- A numeral without its sign. -/
def Numeral.unsigned (n : Numeral) : List Char :=
  Decimal.chars n.whole ++ (fractionChars n.fraction ++ exponentChars n.exponent)

theorem Numeral.chars_eq (n : Numeral) :
    n.chars = (if n.negative then ['-'] else []) ++ n.unsigned := by
  simp only [chars, unsigned, List.append_assoc]
  rfl

theorem readFraction_chars (fraction : List Digit) {rest : List Char}
    (hrest : Decimal.StopsDigits rest) (hpoint : ∀ s, rest ≠ '.' :: s) :
    readFraction (fractionChars fraction ++ rest) = some (fraction, rest) := by
  match fraction with
  | [] =>
    show readFraction rest = _
    unfold readFraction
    split
    · exact absurd rfl (hpoint _)
    · rfl
  | d :: ds =>
    show readFraction ('.' :: (Decimal.chars (d :: ds) ++ rest)) = _
    rw [readFraction, Decimal.scan_chars_append _ hrest]

theorem readExponent_chars {exponent : Option (Bool × List Digit)} {rest : List Char}
    (hne : ∀ negative ds, exponent = some (negative, ds) → ds ≠ []) (hrest : EndsNumber rest) :
    readExponent (exponentChars exponent ++ rest) = some (exponent, rest) := by
  match exponent with
  | none =>
    show readExponent rest = _
    unfold readExponent
    split
    · exact absurd rfl (hrest 'e' rfl).2.2.1
    · exact absurd rfl (hrest 'E' rfl).2.2.2
    · rfl
  | some (negative, ds) =>
    have hscan := Decimal.scan_chars_append ds hrest.stopsDigits
    obtain ⟨d, ds, rfl⟩ := List.exists_cons_of_ne_nil (hne negative _ rfl)
    cases negative with
    | true =>
      show (readExponentDigits ('-' :: (Decimal.chars (d :: ds) ++ rest))).map _ = _
      simp only [readExponentDigits, hscan]
      rfl
    | false =>
      show (readExponentDigits ('+' :: (Decimal.chars (d :: ds) ++ rest))).map _ = _
      simp only [readExponentDigits, hscan]
      rfl

/-- The exponent starts with its letter. -/
theorem exponentChars_stops (exponent : Option (Bool × List Digit)) {rest : List Char}
    (hrest : EndsNumber rest) :
    Decimal.StopsDigits (exponentChars exponent ++ rest) ∧
      ∀ s, exponentChars exponent ++ rest ≠ '.' :: s := by
  match exponent with
  | none =>
    refine ⟨hrest.stopsDigits, fun s h => ?_⟩
    have hrest' : rest = '.' :: s := h
    exact (hrest '.' (by rw [hrest']; rfl)).2.1 rfl
  | some (negative, ds) =>
    refine ⟨fun c hc => ?_, fun s h => ?_⟩
    · cases hc
      decide
    · exact absurd (List.cons.inj h).1 (by decide)

theorem fractionChars_stops (fraction : List Digit) {rest : List Char}
    (hrest : Decimal.StopsDigits rest) : Decimal.StopsDigits (fractionChars fraction ++ rest) := by
  match fraction with
  | [] => exact hrest
  | d :: ds =>
    intro c hc
    cases hc
    decide

theorem readNumeral_unsigned {n : Numeral} (h : n.WellFormed) {rest : List Char}
    (hrest : EndsNumber rest) :
    readNumeral n.negative (n.unsigned ++ rest) = some (n, rest) := by
  obtain ⟨hstops, hpoint⟩ := exponentChars_stops n.exponent hrest
  have hwhole := readWhole_chars h.whole_ne_nil h.head_ne_zero
    (fractionChars_stops n.fraction hstops)
  have hfraction := readFraction_chars n.fraction hstops hpoint
  have hexponent := readExponent_chars h.exponent_ne_nil hrest
  simp [readNumeral, Numeral.unsigned, List.append_assoc, hwhole, hfraction, hexponent]

/-! ## The texts of a document -/

/-- A part of a document: a value, or the rest of the elements of an array or of the members of an
object, up to its closing bracket. -/
inductive Part where
  | value (t : Tree)
  | elements (ts : List Tree)
  | members (ms : List (Quoted × Tree))

/-- The texts of a part. -/
inductive Writes : Part → List Char → Prop where
  | null : Writes (.value .null) ['n', 'u', 'l', 'l']
  | yes : Writes (.value (.bool true)) ['t', 'r', 'u', 'e']
  | no : Writes (.value (.bool false)) ['f', 'a', 'l', 's', 'e']
  | number {n : Numeral} (hn : n.WellFormed) : Writes (.value (.number n)) n.chars
  | string (q : Quoted) : Writes (.value (.string q)) q.chars
  | emptyArray {a : List Char} (ha : Blanks a) : Writes (.value (.array [])) ('[' :: a ++ [']'])
  | array {ts : List Tree} {s : List Char} (hs : Writes (.elements ts) s) :
      Writes (.value (.array ts)) ('[' :: s)
  | emptyObject {a : List Char} (ha : Blanks a) : Writes (.value (.object [])) ('{' :: a ++ ['}'])
  | object {ms : List (Quoted × Tree)} {s : List Char} (hs : Writes (.members ms) s) :
      Writes (.value (.object ms)) ('{' :: s)
  | lastElement {t : Tree} {a b s : List Char} (ha : Blanks a) (hs : Writes (.value t) s)
      (hb : Blanks b) : Writes (.elements [t]) (a ++ (s ++ (b ++ [']'])))
  | element {t : Tree} {ts : List Tree} {a b s rest : List Char} (ha : Blanks a)
      (hs : Writes (.value t) s) (hb : Blanks b) (hrest : Writes (.elements ts) rest) :
      Writes (.elements (t :: ts)) (a ++ (s ++ (b ++ ',' :: rest)))
  | lastMember (key : Quoted) {t : Tree} {a b c d s : List Char} (ha : Blanks a) (hb : Blanks b)
      (hc : Blanks c) (hs : Writes (.value t) s) (hd : Blanks d) :
      Writes (.members [(key, t)]) (a ++ (key.chars ++ (b ++ ':' :: (c ++ (s ++ (d ++ ['}']))))))
  | member (key : Quoted) {t : Tree} {ms : List (Quoted × Tree)} {a b c d s rest : List Char}
      (ha : Blanks a) (hb : Blanks b) (hc : Blanks c) (hs : Writes (.value t) s) (hd : Blanks d)
      (hrest : Writes (.members ms) rest) :
      Writes (.members ((key, t) :: ms))
        (a ++ (key.chars ++ (b ++ ':' :: (c ++ (s ++ (d ++ ',' :: rest))))))

/-! ## Reading -/

theorem read_skipBlanks (bound : Nat) (s : List Char) :
    Tree.read bound (skipBlanks s) = Tree.read bound s := by
  cases bound with
  | zero => rfl
  | succ bound => rw [Tree.read, Tree.read, skipBlanks_skipBlanks]

theorem readElements_skipBlanks (bound : Nat) (s : List Char) :
    Tree.readElements bound (skipBlanks s) = Tree.readElements bound s := by
  cases bound with
  | zero => rfl
  | succ bound => rw [Tree.readElements, Tree.readElements, read_skipBlanks]

theorem readMembers_skipBlanks (bound : Nat) (s : List Char) :
    Tree.readMembers bound (skipBlanks s) = Tree.readMembers bound s := by
  cases bound with
  | zero => rfl
  | succ bound => rw [Tree.readMembers, Tree.readMembers, skipBlanks_skipBlanks]

/-- Blanks before a value are passed over. -/
theorem read_append {a : List Char} (ha : Blanks a) (bound : Nat) (s : List Char) :
    Tree.read bound (a ++ s) = Tree.read bound s := by
  rw [← read_skipBlanks, skipBlanks_append ha, read_skipBlanks]

/-- What the texts of a part are read as, with any bound that is not below their length. Behind a
value stands what no number goes on with. -/
def Part.Reads : Part → List Char → Prop
  | .value t, s => ∀ bound rest, s.length ≤ bound → EndsNumber rest →
      Tree.read bound (s ++ rest) = some (t, rest)
  | .elements ts, s => ∀ bound rest, s.length ≤ bound →
      Tree.readElements bound (s ++ rest) = some (ts, rest)
  | .members ms, s => ∀ bound rest, s.length ≤ bound →
      Tree.readMembers bound (s ++ rest) = some (ms, rest)

theorem endsNumber_nil : EndsNumber [] := by
  intro c hc
  cases hc

theorem endsNumber_cons {c : Char} (s : List Char)
    (hc : Digit.ofChar? c = none ∧ c ≠ '.' ∧ c ≠ 'e' ∧ c ≠ 'E') : EndsNumber (c :: s) := by
  intro e he
  cases he
  exact hc

theorem endsNumber_append {b s : List Char} (hb : Blanks b) (hs : EndsNumber s) :
    EndsNumber (b ++ s) := by
  match b with
  | [] => exact hs
  | c :: b =>
    have hblank : ((c = ' ' ∨ c = '\t') ∨ c = '\n') ∨ c = '\r' := by
      simpa [isBlank] using hb c List.mem_cons_self
    refine endsNumber_cons _ ?_
    rcases hblank with ((rfl | rfl) | rfl) | rfl <;> decide

theorem isBlank_digit (d : Digit) : isBlank d.char = false := by
  revert d
  decide

/-- A text that starts with a digit is read as a number. -/
theorem read_digit (bound : Nat) (d : Digit) (s : List Char) :
    Tree.read (bound + 1) (d.char :: s) =
      (readNumeral false (d.char :: s)).map fun (n, rest) => (.number n, rest) := by
  have hne : ∀ c, Digit.ofChar? c = none → d.char ≠ c := fun c hc => Digit.char_ne hc d
  have hn := hne 'n' (by decide)
  have ht := hne 't' (by decide)
  have hf := hne 'f' (by decide)
  have hquote := hne '"' (by decide)
  have hbracket := hne '[' (by decide)
  have hbrace := hne '{' (by decide)
  have hminus := hne '-' (by decide)
  rw [Tree.read, skipBlanks_cons (isBlank_digit d)]
  split <;> simp_all

theorem exists_unsigned_eq {n : Numeral} (hn : n.WellFormed) :
    ∃ (d : Digit) (s : List Char), n.unsigned = d.char :: s := by
  obtain ⟨d, ds, hwhole⟩ := List.exists_cons_of_ne_nil hn.whole_ne_nil
  have hcons : n.unsigned = d.char :: (Decimal.chars ds ++
      (fractionChars n.fraction ++ exponentChars n.exponent)) := by
    rw [Numeral.unsigned, hwhole]
    rfl
  exact ⟨d, _, hcons⟩

theorem read_number {n : Numeral} (hn : n.WellFormed) (bound : Nat) {rest : List Char}
    (hrest : EndsNumber rest) :
    Tree.read (bound + 1) (n.chars ++ rest) = some (.number n, rest) := by
  have hread := readNumeral_unsigned hn hrest
  rw [Numeral.chars_eq]
  rcases hnegative : n.negative with _ | _
  · obtain ⟨d, s, hunsigned⟩ := exists_unsigned_eq hn
    rw [hnegative, hunsigned, List.cons_append] at hread
    rw [if_neg Bool.false_ne_true, List.nil_append, hunsigned, List.cons_append, read_digit, hread]
    rfl
  · have hminus : Tree.read (bound + 1) ('-' :: (n.unsigned ++ rest)) =
        (readNumeral true (n.unsigned ++ rest)).map fun (n, rest) => (.number n, rest) := rfl
    rw [hnegative] at hread
    rw [if_pos rfl, List.append_assoc, List.singleton_append, hminus, hread]
    rfl

/-- The first character of a value is neither a blank nor a closing bracket. -/
theorem Writes.exists_cons {t : Tree} {s : List Char} (h : Writes (.value t) s) :
    ∃ c rest, s = c :: rest ∧ isBlank c = false ∧ c ≠ ']' := by
  cases h with
  | number hn =>
    rename_i n
    obtain ⟨d, s, hunsigned⟩ := exists_unsigned_eq hn
    rw [Numeral.chars_eq, hunsigned]
    rcases n.negative with _ | _
    · exact ⟨d.char, s, rfl, isBlank_digit d, Digit.char_ne (by decide) d⟩
    · exact ⟨'-', d.char :: s, rfl, by decide, by decide⟩
  | string q =>
    obtain ⟨body, hbody, -⟩ := readQuoted_chars q
    exact ⟨'"', body, hbody, by decide, by decide⟩
  | _ => exact ⟨_, _, rfl, by decide, by decide⟩

/-- Only numbers start with a dash. -/
theorem Writes.ne_dash {t : Tree} {s : List Char} (h : Writes (.value t) s)
    (ht : ∀ n, t ≠ .number n) (rest : List Char) : s ≠ '-' :: rest := by
  intro hs
  cases h with
  | number hn => exact ht _ rfl
  | string q =>
    obtain ⟨body, hbody, -⟩ := readQuoted_chars q
    rw [hbody] at hs
    exact absurd (List.cons.inj hs).1 (by decide)
  | _ => exact absurd (List.cons.inj hs).1 (by decide)

theorem Writes.length_pos {t : Tree} {s : List Char} (h : Writes (.value t) s) : 0 < s.length := by
  obtain ⟨c, rest, rfl, -⟩ := h.exists_cons
  exact Nat.succ_pos _

/-- Behind blanks, a value does not start with the closing bracket. -/
theorem Writes.skipBlanks_ne_bracket {t : Tree} {a s : List Char} (h : Writes (.value t) s)
    (ha : Blanks a) (rest : List Char) : ∀ r, skipBlanks (a ++ (s ++ rest)) ≠ ']' :: r := by
  obtain ⟨c, s, rfl, hblank, hclosed⟩ := h.exists_cons
  intro r hr
  rw [skipBlanks_append ha, List.cons_append, skipBlanks_cons hblank] at hr
  exact hclosed (List.cons.inj hr).1

/-- The first element stands in front of the closing bracket. -/
theorem Writes.not_closed {ts : List Tree} {s : List Char} (h : Writes (.elements ts) s)
    (rest : List Char) : ∀ r, skipBlanks (s ++ rest) ≠ ']' :: r := by
  cases h with
  | lastElement ha hs hb =>
    rw [List.append_assoc, List.append_assoc]
    exact hs.skipBlanks_ne_bracket ha _
  | element ha hs hb hrest =>
    rw [List.append_assoc, List.append_assoc]
    exact hs.skipBlanks_ne_bracket ha _

/-- Behind blanks, a key starts with a quotation mark. -/
theorem skipBlanks_key_ne_brace (key : Quoted) {a : List Char} (ha : Blanks a) (s : List Char) :
    ∀ r, skipBlanks (a ++ (key.chars ++ s)) ≠ '}' :: r := by
  obtain ⟨body, hbody, -⟩ := readQuoted_chars key
  intro r hr
  rw [skipBlanks_append ha, hbody, List.cons_append, skipBlanks_cons (by decide)] at hr
  exact absurd (List.cons.inj hr).1 (by decide)

theorem Writes.opens_key {ms : List (Quoted × Tree)} {s : List Char} (h : Writes (.members ms) s)
    (rest : List Char) : ∀ r, skipBlanks (s ++ rest) ≠ '}' :: r := by
  cases h with
  | lastMember key ha hb hc hs hd =>
    rw [List.append_assoc, List.append_assoc]
    exact skipBlanks_key_ne_brace key ha _
  | member key ha hb hc hs hd hrest =>
    rw [List.append_assoc, List.append_assoc]
    exact skipBlanks_key_ne_brace key ha _

theorem read_string (q : Quoted) (bound : Nat) (rest : List Char) :
    Tree.read (bound + 1) (q.chars ++ rest) = some (.string q, rest) := by
  obtain ⟨body, hbody, hread⟩ := readQuoted_chars q
  have hquote : Tree.read (bound + 1) ('"' :: (body ++ rest)) =
      (readQuoted (body ++ rest)).map fun p => (.string p.1, p.2) := rfl
  rw [hbody, List.cons_append, hquote, hread]
  rfl

theorem read_emptyArray {a : List Char} (ha : Blanks a) (bound : Nat) (rest : List Char) :
    Tree.read (bound + 1) ('[' :: (a ++ ']' :: rest)) = some (.array [], rest) := by
  rw [Tree.read, skipBlanks_cons (by decide)]
  simp only [skipBlanks_append ha, skipBlanks_cons (by decide : isBlank ']' = false)]

theorem read_array (bound : Nat) {s : List Char} (h : ∀ r, skipBlanks s ≠ ']' :: r) :
    Tree.read (bound + 1) ('[' :: s) =
      (Tree.readElements bound s).map fun (ts, rest) => (.array ts, rest) := by
  rw [← readElements_skipBlanks, Tree.read, skipBlanks_cons (by decide)]
  -- The hypothesis rules out the closing bracket.
  simp only

theorem read_emptyObject {a : List Char} (ha : Blanks a) (bound : Nat) (rest : List Char) :
    Tree.read (bound + 1) ('{' :: (a ++ '}' :: rest)) = some (.object [], rest) := by
  rw [Tree.read, skipBlanks_cons (by decide)]
  simp only [skipBlanks_append ha, skipBlanks_cons (by decide : isBlank '}' = false)]

theorem read_object (bound : Nat) {s : List Char} (h : ∀ r, skipBlanks s ≠ '}' :: r) :
    Tree.read (bound + 1) ('{' :: s) =
      (Tree.readMembers bound s).map fun (ms, rest) => (.object ms, rest) := by
  rw [← readMembers_skipBlanks, Tree.read, skipBlanks_cons (by decide)]
  -- The hypothesis rules out the closing bracket.
  simp only

theorem readElements_last {bound : Nat} {t : Tree} {b s rest : List Char} (hb : Blanks b)
    (hvalue : Tree.read bound s = some (t, b ++ ']' :: rest)) :
    Tree.readElements (bound + 1) s = some ([t], rest) := by
  simp only [Tree.readElements, hvalue, Option.bind_eq_bind, Option.bind_some,
    skipBlanks_append hb, skipBlanks_cons (by decide : isBlank ']' = false)]
  rfl

theorem readElements_cons {bound : Nat} {t : Tree} {ts : List Tree} {b s r rest : List Char}
    (hb : Blanks b) (hvalue : Tree.read bound s = some (t, b ++ ',' :: r))
    (hrest : Tree.readElements bound r = some (ts, rest)) :
    Tree.readElements (bound + 1) s = some (t :: ts, rest) := by
  simp only [Tree.readElements, hvalue, Option.bind_eq_bind, Option.bind_some,
    skipBlanks_append hb, skipBlanks_cons (by decide : isBlank ',' = false), hrest]
  rfl

section Members

variable (key : Quoted) {bound : Nat} {t : Tree} {a b d s r rest : List Char}

theorem readMembers_last (ha : Blanks a) (hb : Blanks b) (hd : Blanks d)
    (hvalue : Tree.read bound s = some (t, d ++ '}' :: rest)) :
    Tree.readMembers (bound + 1) (a ++ (key.chars ++ (b ++ ':' :: s))) =
      some ([(key, t)], rest) := by
  obtain ⟨body, hbody, hkey⟩ := readQuoted_chars key
  simp only [hbody, List.cons_append, Tree.readMembers, skipBlanks_append ha,
    skipBlanks_cons (by decide : isBlank '"' = false), hkey, Option.bind_eq_bind, Option.bind_some,
    skipBlanks_append hb, skipBlanks_cons (by decide : isBlank ':' = false), hvalue,
    skipBlanks_append hd, skipBlanks_cons (by decide : isBlank '}' = false)]
  rfl

theorem readMembers_cons {ms : List (Quoted × Tree)} (ha : Blanks a) (hb : Blanks b)
    (hd : Blanks d) (hvalue : Tree.read bound s = some (t, d ++ ',' :: r))
    (hrest : Tree.readMembers bound r = some (ms, rest)) :
    Tree.readMembers (bound + 1) (a ++ (key.chars ++ (b ++ ':' :: s))) =
      some ((key, t) :: ms, rest) := by
  obtain ⟨body, hbody, hkey⟩ := readQuoted_chars key
  simp only [hbody, List.cons_append, Tree.readMembers, skipBlanks_append ha,
    skipBlanks_cons (by decide : isBlank '"' = false), hkey, Option.bind_eq_bind, Option.bind_some,
    skipBlanks_append hb, skipBlanks_cons (by decide : isBlank ':' = false), hvalue,
    skipBlanks_append hd, skipBlanks_cons (by decide : isBlank ',' = false), hrest]
  rfl

end Members

/-- A value between blanks is read when what follows it ends a number. -/
theorem Part.Reads.between {t : Tree} {s a b : List Char} (h : (Part.value t).Reads s)
    (ha : Blanks a) (hb : Blanks b) {bound : Nat} (hbound : s.length ≤ bound) {c : Char}
    (hc : Digit.ofChar? c = none ∧ c ≠ '.' ∧ c ≠ 'e' ∧ c ≠ 'E') (rest : List Char) :
    Tree.read bound (a ++ (s ++ (b ++ c :: rest))) = some (t, b ++ c :: rest) := by
  rw [read_append ha]
  exact h bound _ hbound (endsNumber_append hb (endsNumber_cons rest hc))

/-- No text of a value is empty, so a bound that is enough for it is not zero. -/
theorem Writes.reads_of_succ {t : Tree} {s : List Char} (h : Writes (.value t) s)
    (hread : ∀ bound rest, s.length ≤ bound + 1 → EndsNumber rest →
      Tree.read (bound + 1) (s ++ rest) = some (t, rest)) : (Part.value t).Reads s := by
  intro bound rest hbound hrest
  obtain ⟨b, rfl⟩ := Nat.exists_eq_succ_of_ne_zero (h.length_pos.trans_le hbound).ne'
  exact hread b rest hbound hrest

theorem Writes.reads {p : Part} {s : List Char} (h : Writes p s) : p.Reads s := by
  induction h with
  | null => exact Writes.null.reads_of_succ fun bound rest _ _ => rfl
  | yes => exact Writes.yes.reads_of_succ fun bound rest _ _ => rfl
  | no => exact Writes.no.reads_of_succ fun bound rest _ _ => rfl
  | number hn =>
    exact (Writes.number hn).reads_of_succ fun bound rest _ hrest => read_number hn bound hrest
  | string q =>
    exact (Writes.string q).reads_of_succ fun bound rest _ _ => read_string q bound rest
  | emptyArray ha =>
    refine (Writes.emptyArray ha).reads_of_succ fun bound rest _ _ => ?_
    rw [List.append_assoc, List.cons_append, List.singleton_append, read_emptyArray ha]
  | array hs ih =>
    refine (Writes.array hs).reads_of_succ fun bound rest hbound _ => ?_
    have hread := ih bound rest (by simpa using hbound)
    rw [List.cons_append, read_array bound (hs.not_closed rest), hread]
    rfl
  | emptyObject ha =>
    refine (Writes.emptyObject ha).reads_of_succ fun bound rest _ _ => ?_
    rw [List.append_assoc, List.cons_append, List.singleton_append, read_emptyObject ha]
  | object hs ih =>
    refine (Writes.object hs).reads_of_succ fun bound rest hbound _ => ?_
    have hread := ih bound rest (by simpa using hbound)
    rw [List.cons_append, read_object bound (hs.opens_key rest), hread]
    rfl
  | lastElement ha hs hb ih =>
    intro bound rest hbound
    simp only [List.length_append, List.length_singleton] at hbound
    obtain ⟨k, rfl⟩ : ∃ k, bound = k + 1 := ⟨bound - 1, by omega⟩
    have hvalue := ih.between (c := ']') ha hb (by omega : _ ≤ k) (by decide) rest
    simpa only [List.append_assoc, List.singleton_append] using readElements_last hb hvalue
  | @element t ts a b s r ha hs hb hrest ih ihrest =>
    intro bound rest hbound
    simp only [List.length_append, List.length_cons] at hbound
    obtain ⟨k, rfl⟩ : ∃ k, bound = k + 1 := ⟨bound - 1, by omega⟩
    have hvalue := ih.between (c := ',') ha hb (by omega : _ ≤ k) (by decide) (r ++ rest)
    have helements : Tree.readElements k (r ++ rest) = some (ts, rest) := ihrest k rest (by omega)
    simpa only [List.append_assoc, List.cons_append] using readElements_cons hb hvalue helements
  | lastMember key ha hb hc hs hd ih =>
    intro bound rest hbound
    simp only [List.length_append, List.length_cons] at hbound
    obtain ⟨k, rfl⟩ : ∃ k, bound = k + 1 := ⟨bound - 1, by omega⟩
    have hvalue := ih.between (c := '}') hc hd (by omega : _ ≤ k) (by decide) rest
    simpa only [List.append_assoc, List.cons_append, List.nil_append] using
      readMembers_last key ha hb hd hvalue
  | @member key t ms a b c d s r ha hb hc hs hd hrest ih ihrest =>
    intro bound rest hbound
    simp only [List.length_append, List.length_cons] at hbound
    obtain ⟨k, rfl⟩ : ∃ k, bound = k + 1 := ⟨bound - 1, by omega⟩
    have hvalue := ih.between (c := ',') hc hd (by omega : _ ≤ k) (by decide) (r ++ rest)
    have hmembers : Tree.readMembers k (r ++ rest) = some (ms, rest) := ihrest k rest (by omega)
    simpa only [List.append_assoc, List.cons_append] using
      readMembers_cons key ha hb hd hvalue hmembers

/-- Every text of a document reads as the document, with blanks on both sides. -/
theorem parse?_of_writes {t : Tree} {a b s : List Char} (ha : Blanks a)
    (hs : Writes (.value t) s) (hb : Blanks b) :
    Tree.parse? (String.ofList (a ++ (s ++ b))) = some t := by
  have hends : EndsNumber b := by
    rw [← List.append_nil b]
    exact endsNumber_append hb endsNumber_nil
  have hskip : skipBlanks b = [] := by
    rw [← List.append_nil b, skipBlanks_append hb]
    rfl
  have hread : Tree.read ((a ++ (s ++ b)).length + 1) (a ++ (s ++ b)) = some (t, b) := by
    rw [read_append ha]
    refine hs.reads _ b ?_ hends
    simp only [List.length_append]
    omega
  simp only [Tree.parse?, String.toList_ofList, hread, hskip, List.isEmpty_nil, if_true]

/-! ## Printing -/

mutual

/-- All numerals of a document are well-formed. -/
def Tree.Printable : Tree → Prop
  | .number n => n.WellFormed
  | .array ts => Tree.PrintableElements ts
  | .object ms => Tree.PrintableMembers ms
  | .null | .bool _ | .string _ => True

def Tree.PrintableElements : List Tree → Prop
  | [] => True
  | t :: ts => t.Printable ∧ Tree.PrintableElements ts

def Tree.PrintableMembers : List (Quoted × Tree) → Prop
  | [] => True
  | (_, t) :: ms => t.Printable ∧ Tree.PrintableMembers ms

end

theorem blanks_nil : Blanks [] :=
  fun _ h => nomatch h

theorem blanks_newLine (depth : Nat) : Blanks (Tree.newLine depth) := by
  intro c hc
  rcases List.mem_cons.1 hc with rfl | hc
  · rfl
  · rw [List.eq_of_mem_replicate hc]
    rfl

mutual

/-- The compact text is one of the texts of a document. -/
theorem writes_compactChars (t : Tree) (h : t.Printable) :
    Writes (.value t) (Tree.compactChars t) := by
  match t, h with
  | .null, _ => exact .null
  | .bool true, _ => exact .yes
  | .bool false, _ => exact .no
  | .number n, h => exact .number h
  | .string q, _ => exact .string q
  | .array [], _ => exact .emptyArray blanks_nil
  | .array (t :: ts), h =>
    exact .array (writes_compactElements (writes_compactChars t h.1) ts h.2)
  | .object [], _ => exact .emptyObject blanks_nil
  | .object ((key, t) :: ms), h =>
    exact .object (writes_compactMembers key (writes_compactChars t h.1) ms h.2)

theorem writes_compactElements {t : Tree} {s : List Char} (hs : Writes (.value t) s)
    (ts : List Tree) (h : Tree.PrintableElements ts) :
    Writes (.elements (t :: ts)) (s ++ Tree.compactElements ts) := by
  match ts, h with
  | [], _ => exact .lastElement blanks_nil hs blanks_nil
  | u :: ts, h =>
    exact .element blanks_nil hs blanks_nil
      (writes_compactElements (writes_compactChars u h.1) ts h.2)

theorem writes_compactMembers (key : Quoted) {t : Tree} {s : List Char}
    (hs : Writes (.value t) s) (ms : List (Quoted × Tree)) (h : Tree.PrintableMembers ms) :
    Writes (.members ((key, t) :: ms)) (key.chars ++ ':' :: s ++ Tree.compactMembers ms) := by
  rw [List.append_assoc]
  match ms, h with
  | [], _ => exact .lastMember key blanks_nil blanks_nil blanks_nil hs blanks_nil
  | (key', u) :: ms, h =>
    exact .member key blanks_nil blanks_nil blanks_nil hs blanks_nil
      (writes_compactMembers key' (writes_compactChars u h.1) ms h.2)

end

mutual

/-- So is the indented text, at any depth. -/
theorem writes_prettyChars (depth : Nat) (t : Tree) (h : t.Printable) :
    Writes (.value t) (Tree.prettyChars depth t) := by
  match t, h with
  | .null, _ => exact .null
  | .bool true, _ => exact .yes
  | .bool false, _ => exact .no
  | .number n, h => exact .number h
  | .string q, _ => exact .string q
  | .array [], _ => exact .emptyArray blanks_nil
  | .array (t :: ts), h =>
    exact .array (writes_prettyElements depth (writes_prettyChars (depth + 1) t h.1) ts h.2)
  | .object [], _ => exact .emptyObject blanks_nil
  | .object ((key, t) :: ms), h =>
    have hmembers :=
      writes_prettyMembers depth key (writes_prettyChars (depth + 1) t h.1) ms h.2
    have hobject := Writes.object hmembers
    simpa only [Tree.prettyChars, List.append_assoc, List.cons_append] using hobject

theorem writes_prettyElements (depth : Nat) {t : Tree} {s : List Char}
    (hs : Writes (.value t) s) (ts : List Tree) (h : Tree.PrintableElements ts) :
    Writes (.elements (t :: ts))
      (Tree.newLine (depth + 1) ++ s ++ Tree.prettyElements depth ts) := by
  rw [List.append_assoc]
  match ts, h with
  | [], _ => exact .lastElement (blanks_newLine _) hs (blanks_newLine _)
  | u :: ts, h =>
    exact .element (blanks_newLine _) hs blanks_nil
      (writes_prettyElements depth (writes_prettyChars (depth + 1) u h.1) ts h.2)

theorem writes_prettyMembers (depth : Nat) (key : Quoted) {t : Tree} {s : List Char}
    (hs : Writes (.value t) s) (ms : List (Quoted × Tree)) (h : Tree.PrintableMembers ms) :
    Writes (.members ((key, t) :: ms)) (Tree.newLine (depth + 1) ++
      (key.chars ++ ':' :: ' ' :: (s ++ Tree.prettyMembers depth ms))) := by
  have hblank : Blanks [' '] := by simp [Blanks, isBlank]
  match ms, h with
  | [], _ => exact .lastMember key (blanks_newLine _) blanks_nil hblank hs (blanks_newLine _)
  | (key', u) :: ms, h =>
    have hrest := writes_prettyMembers depth key' (writes_prettyChars (depth + 1) u h.1) ms h.2
    have hmember :=
      Writes.member key (blanks_newLine (depth + 1)) blanks_nil hblank hs blanks_nil hrest
    simpa only [Tree.prettyMembers, List.append_assoc, List.cons_append, List.nil_append]
      using hmember

end

/-- A document reads back from its compact text. -/
theorem parse?_compact {t : Tree} (h : t.Printable) : Tree.parse? t.compact = some t := by
  have hparse := parse?_of_writes blanks_nil (writes_compactChars t h) blanks_nil
  rwa [List.append_nil, List.nil_append] at hparse

/-- A document reads back from its indented text. -/
theorem parse?_pretty {t : Tree} (h : t.Printable) : Tree.parse? t.pretty = some t := by
  have hparse := parse?_of_writes blanks_nil (writes_prettyChars 0 t h) blanks_nil
  rwa [List.append_nil, List.nil_append] at hparse

end Predefined.Json
