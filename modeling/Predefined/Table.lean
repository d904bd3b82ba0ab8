-- Tables from text to values as lists of pairs in increasing order of their keys. The order is that
-- of code points, it is what documents are written in, and it makes two tables with the same
-- content the same list.
namespace Predefined.Table

variable {α : Type}

/-- Puts a value under a key. A value that was there is replaced. -/
def insert (key : String) (a : α) : List (String × α) → List (String × α)
  | [] => [(key, a)]
  | (k, b) :: rest =>
    if key < k then (key, a) :: (k, b) :: rest
    else if key = k then (key, a) :: rest
    else (k, b) :: insert key a rest

/-- The value under a key. -/
def get? (key : String) : List (String × α) → Option α
  | [] => none
  | (k, b) :: rest => if key = k then some b else get? key rest

/-- The table of pairs in any order; of two pairs with one key the later one counts. -/
def ofPairs (pairs : List (String × α)) : List (String × α) :=
  pairs.foldl (fun t (key, a) => insert key a t) []

/-- Keys are strictly increasing. -/
def Sorted (t : List (String × α)) : Prop :=
  t.Pairwise (·.1 < ·.1)

/-! ## Order -/

theorem mem_insert {key : String} {a : α} {t : List (String × α)} {p : String × α}
    (h : p ∈ insert key a t) : p = (key, a) ∨ p ∈ t := by
  induction t with
  | nil => simpa [insert] using h
  | cons q rest ih =>
    obtain ⟨k, b⟩ := q
    unfold insert at h
    split at h
    · simpa using h
    · split at h
      · simp at h ⊢
        exact h.imp_right Or.inr
      · simp at h ⊢
        rcases h with h | h
        · exact Or.inr (Or.inl h)
        · exact (ih h).imp_right Or.inr

theorem sorted_insert (key : String) (a : α) {t : List (String × α)} (h : Sorted t) :
    Sorted (insert key a t) := by
  induction t with
  | nil => simp [insert, Sorted]
  | cons q rest ih =>
    obtain ⟨k, b⟩ := q
    have ⟨hk, hrest⟩ := List.pairwise_cons.1 h
    unfold insert
    split
    · rename_i hlt
      refine List.pairwise_cons.2 ⟨fun p hp => ?_, h⟩
      rcases List.mem_cons.1 hp with rfl | hp
      · exact hlt
      · exact String.lt_trans hlt (hk p hp)
    · split
      · rename_i he
        subst he
        exact List.pairwise_cons.2 ⟨hk, hrest⟩
      · rename_i hlt hne
        refine List.pairwise_cons.2 ⟨fun p hp => ?_, ih hrest⟩
        rcases mem_insert hp with rfl | hp
        · have hle : k ≤ key := String.not_lt.1 hlt
          exact Decidable.byContradiction fun hn =>
            hne (String.le_antisymm (String.not_lt.1 hn) hle)
        · exact hk p hp

theorem sorted_ofPairs (pairs : List (String × α)) : Sorted (ofPairs pairs) := by
  suffices ∀ t, Sorted t → Sorted (pairs.foldl (fun t (key, a) => insert key a t) t) from
    this [] List.Pairwise.nil
  intro t ht
  induction pairs generalizing t with
  | nil => exact ht
  | cons p rest ih => exact ih _ (sorted_insert p.1 p.2 ht)

/-! ## Look-up after a write -/

theorem get?_insert_self (key : String) (a : α) (t : List (String × α)) :
    get? key (insert key a t) = some a := by
  induction t with
  | nil => simp [insert, get?]
  | cons p rest ih =>
    obtain ⟨k, b⟩ := p
    unfold insert
    split
    · simp [get?]
    · split
      · simp [get?]
      · rename_i hne
        simp [get?, hne, ih]

theorem get?_insert_of_ne {key other : String} (h : other ≠ key) (a : α) (t : List (String × α)) :
    get? other (insert key a t) = get? other t := by
  induction t with
  | nil => simp [insert, get?, h]
  | cons p rest ih =>
    obtain ⟨k, b⟩ := p
    unfold insert
    split
    · simp [get?, h]
    · split
      · rename_i he
        subst he
        simp [get?, h]
      · simp [get?, ih]

end Predefined.Table
