-- JSON values read back from their texts. A value does when its numbers are integers, its objects
-- are in the order of their keys, and it nests no deeper than documents may.
import Predefined.Json.Value
import Predefined.Proofs.JsonText

namespace Predefined

namespace Table

variable {α : Type}

/-- A pair with a new key joins the pairs of a table. -/
theorem perm_insert {key : String} (a : α) {t : List (String × α)} (h : ∀ p ∈ t, p.1 ≠ key) :
    (insert key a t).Perm ((key, a) :: t) := by
  induction t with
  | nil => exact .refl _
  | cons p rest ih =>
    obtain ⟨k, b⟩ := p
    have hne : key ≠ k := Ne.symm (h (k, b) List.mem_cons_self)
    have hrest := ih fun q hq => h q (List.mem_cons_of_mem _ hq)
    by_cases hlt : key < k
    · rw [insert, if_pos hlt]
    · rw [insert, if_neg hlt, if_neg hne]
      exact (hrest.cons (k, b)).trans (.swap _ _ _)

/-- Pairs whose keys differ are the pairs of their table. -/
theorem perm_ofPairs {pairs : List (String × α)} (h : (pairs.map (·.1)).Nodup) :
    (ofPairs pairs).Perm pairs := by
  suffices ∀ t : List (String × α), ((t ++ pairs).map (·.1)).Nodup →
      (pairs.foldl (fun t p => insert p.1 p.2 t) t).Perm (t ++ pairs) from this [] h
  intro t ht
  clear h
  induction pairs generalizing t with
  | nil => rw [List.append_nil]; exact .refl t
  | cons p rest ih =>
    have hmiddle : (t ++ p :: rest).Perm (p :: t ++ rest) := List.perm_middle
    have hkeys : ((p :: t ++ rest).map (·.1)).Nodup := (hmiddle.map _).nodup_iff.1 ht
    have hnew : ∀ q ∈ t, q.1 ≠ p.1 := by
      intro q hq heq
      exact (List.nodup_cons.1 hkeys).1
        (List.mem_map.2 ⟨q, List.mem_append_left rest hq, heq⟩)
    have hinsert : (insert p.1 p.2 t ++ rest).Perm (p :: t ++ rest) :=
      (perm_insert p.2 hnew).append_right rest
    have hrest := ih (insert p.1 p.2 t) ((hinsert.map _).nodup_iff.2 hkeys)
    exact hrest.trans (hinsert.trans hmiddle.symm)

theorem Sorted.nodup {t : List (String × α)} (h : Sorted t) : (t.map (·.1)).Nodup := by
  refine List.pairwise_map.2 (h.imp fun {p q} hlt heq => ?_)
  exact String.lt_irrefl q.1 (heq ▸ hlt)

/-- The pairs of a table, in any order, are the table again. -/
theorem ofPairs_of_perm {pairs t : List (String × α)} (ht : Sorted t) (h : pairs.Perm t) :
    ofPairs pairs = t := by
  have hkeys : (pairs.map (·.1)).Nodup := (h.map _).nodup_iff.2 ht.nodup
  refine ((perm_ofPairs hkeys).trans h).eq_of_pairwise ?_ (sorted_ofPairs pairs) ht
  intro p q _ _ hpq hqp
  exact absurd (String.lt_trans hpq hqp) (String.lt_irrefl p.1)

end Table

namespace Json

/-! ## Integers -/

theorem wellFormed_ofInt (i : Int) : (Numeral.ofInt i).WellFormed where
  whole_ne_nil := Decimal.digits_ne_nil _
  head_ne_zero d d' ds h := by
    by_cases hzero : i.natAbs = 0
    · have hdigits : Decimal.digits i.natAbs = d :: d' :: ds := h
      rw [hzero, Decimal.digits_of_lt (by decide)] at hdigits
      cases hdigits
    · exact Decimal.head_digits hzero h
  exponent_ne_nil _ _ h := nomatch h

theorem ofNumeral?_ofInt {i : Int} (h : -0x8000000000000000 ≤ i ∧ i < 0x10000000000000000) :
    Number.ofNumeral? (Numeral.ofInt i) = some (.integer i h) := by
  have hvalue : (if (Numeral.ofInt i).negative = true
      then -(Decimal.value (Numeral.ofInt i).whole : Int)
      else Decimal.value (Numeral.ofInt i).whole) = i := by
    simp only [Numeral.ofInt, Decimal.value_digits, decide_eq_true_eq]
    split <;> omega
  have hzero : ¬ ((Numeral.ofInt i).negative = true ∧
      Decimal.value (Numeral.ofInt i).whole = 0) := by
    simp only [Numeral.ofInt, Decimal.value_digits, decide_eq_true_eq]
    omega
  simp only [Number.ofNumeral?, hvalue]
  rw [dif_pos ⟨⟨rfl, rfl⟩, hzero, h⟩]

/-! ## Values -/

mutual

/-- Values that nest `room` levels deep at most, whose numbers are integers and whose objects are in
the order of their keys. -/
def Readable : (room : Nat) → Json → Prop
  | _, null | _, bool _ | _, string _ => True
  | _, number n => ∃ i h, n = .integer i h
  | room, array js => 0 < room ∧ ReadableElements (room - 1) js
  | room, object ms => 0 < room ∧ Table.Sorted ms ∧ ReadableMembers (room - 1) ms

def ReadableElements : (room : Nat) → List Json → Prop
  | _, [] => True
  | room, j :: js => Readable room j ∧ ReadableElements room js

def ReadableMembers : (room : Nat) → List (String × Json) → Prop
  | _, [] => True
  | room, (_, j) :: ms => Readable room j ∧ ReadableMembers room ms

end

mutual

theorem printable_toTree {room : Nat} (j : Json) (h : Readable room j) : j.toTree.Printable := by
  match j, h with
  | null, _ | bool _, _ | string _, _ => trivial
  | number _, ⟨i, _, rfl⟩ => exact wellFormed_ofInt i
  | array js, h => exact printable_elementTrees js h.2
  | object ms, h => exact printable_memberTrees ms h.2.2

theorem printable_elementTrees {room : Nat} (js : List Json) (h : ReadableElements room js) :
    Tree.PrintableElements (elementTrees js) := by
  match js, h with
  | [], _ => trivial
  | j :: js, h => exact ⟨printable_toTree j h.1, printable_elementTrees js h.2⟩

theorem printable_memberTrees {room : Nat} (ms : List (String × Json))
    (h : ReadableMembers room ms) : Tree.PrintableMembers (memberTrees ms) := by
  match ms, h with
  | [], _ => trivial
  | (_, j) :: ms, h => exact ⟨printable_toTree j h.1, printable_memberTrees ms h.2⟩

end

mutual

/-- The document of a value says the value. -/
theorem ofTree?_toTree {room : Nat} (j : Json) (h : Readable room j) :
    ofTree? room j.toTree = some j := by
  match j, h with
  | null, _ | bool _, _ | string _, _ => rfl
  | number _, ⟨i, hrange, rfl⟩ =>
    simp only [toTree, Number.numeral, ofTree?, ofNumeral?_ofInt hrange, Option.map_some]
  | array js, h =>
    have hroom : room ≠ 0 := h.1.ne'
    simp only [toTree, ofTree?, if_neg hroom, ofElements?_elementTrees js h.2, Option.map_some]
  | object ms, h =>
    have hroom : room ≠ 0 := h.1.ne'
    simp only [toTree, ofTree?, if_neg hroom, ofMembers?_memberTrees ms h.2.2, Option.map_some,
      Table.ofPairs_of_perm h.2.1 (.refl _)]

theorem ofElements?_elementTrees {room : Nat} (js : List Json) (h : ReadableElements room js) :
    ofElements? room (elementTrees js) = some js := by
  match js, h with
  | [], _ => rfl
  | j :: js, h =>
    simp only [elementTrees, ofElements?, ofTree?_toTree j h.1, ofElements?_elementTrees js h.2]
    rfl

theorem ofMembers?_memberTrees {room : Nat} (ms : List (String × Json))
    (h : ReadableMembers room ms) : ofMembers? room (memberTrees ms) = some ms := by
  match ms, h with
  | [], _ => rfl
  | (key, j) :: ms, h =>
    simp only [memberTrees, ofMembers?, ofTree?_toTree j h.1, ofMembers?_memberTrees ms h.2]
    rfl

end

/-- A value reads back from its compact text. -/
theorem parse?_value_compact {j : Json} (h : j.Readable nestingLimit) :
    parse? j.compact = some j := by
  rw [parse?, compact, parse?_compact (printable_toTree j h), Option.bind_some, ofTree?_toTree j h]

/-- So it does from every other text of its document, with blanks on both sides. -/
theorem parse?_value_of_writes {j : Json} (h : j.Readable nestingLimit) {a s b : List Char}
    (ha : Blanks a) (hs : Writes (.value j.toTree) s) (hb : Blanks b) :
    parse? (String.ofList (a ++ (s ++ b))) = some j := by
  rw [parse?, parse?_of_writes ha hs hb, Option.bind_some, ofTree?_toTree j h]

end Json

end Predefined
