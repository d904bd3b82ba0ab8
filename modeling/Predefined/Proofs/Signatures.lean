-- The catalogue as an index. A signature is found under the name of its function and the number of
-- its arguments, and no two signatures share both. The question whether a name is supported reads
-- the tables of functions and not the catalogue, and has the same answer.
import Mathlib.Data.List.Nodup
import Predefined.Function.Catalogue

namespace Predefined

/-! ## Keys -/

/-- What a signature is found by: a name and a number of arguments. -/
def Signature.key (s : Signature) : String × Nat :=
  (s.name, s.arity)

theorem Nullary.key_signature (f : Nullary) : f.signature.key = (f.name, 0) := by
  cases f; rfl

theorem Unary.key_signature (f : Unary) : f.signature.key = (f.name, 1) := rfl

theorem SpecialForm.key_signature (f : SpecialForm) : f.signature.key = (f.name, 1) := by
  cases f; rfl

theorem Binary.key_signature (f : Binary) : f.signature.key = (f.name, 2) := by
  cases f <;> rfl

theorem Ternary.key_signature (f : Ternary) : f.signature.key = (f.name, 3) := by
  cases f <;> rfl

namespace Catalogue

def keys : List (String × Nat) :=
  unsorted.map Signature.key

/-- A key stands in the catalogue when some table has a function of that name. -/
theorem mem_keys {name : String} {count : Nat} :
    (name, count) ∈ keys ↔
      (∃ f ∈ Nullary.all, f.name = name ∧ 0 = count) ∨
      (∃ f ∈ Unary.all, f.name = name ∧ 1 = count) ∨
      (∃ f ∈ SpecialForm.all, f.name = name ∧ 1 = count) ∨
      (∃ f ∈ Binary.all, f.name = name ∧ 2 = count) ∨
      (∃ f ∈ Ternary.all, f.name = name ∧ 3 = count) := by
  simp only [keys, unsorted, List.map_append, List.map_map, List.mem_append, List.mem_map,
    or_assoc, Function.comp, Nullary.key_signature, Unary.key_signature,
    SpecialForm.key_signature, Binary.key_signature, Ternary.key_signature, Prod.mk.injEq]

/-- A function may have its name in common with one of another table, which takes another number of
arguments; a special form takes as many as a function of one argument, and has a name of its own. -/
theorem keys_nodup : keys.Nodup := by
  decide

theorem supports_iff_mem_keys {name : String} {arity : Arity} :
    supports name arity = true ↔ (name, arity.count) ∈ keys := by
  rw [mem_keys]
  cases arity <;>
    simp [supports, Arity.count, Nullary.ofName?, Unary.ofName?, SpecialForm.ofName?,
      Binary.ofName?, Ternary.ofName?]

/-- No function takes more than three arguments. -/
theorem count_le_three {name : String} {count : Nat} (h : (name, count) ∈ keys) : count ≤ 3 := by
  rw [mem_keys] at h
  rcases h with ⟨_, _, _, rfl⟩ | ⟨_, _, _, rfl⟩ | ⟨_, _, _, rfl⟩ | ⟨_, _, _, rfl⟩ |
    ⟨_, _, _, rfl⟩ <;> omega

/-! ## Signatures under a name -/

theorem mem_lookup {name : String} {s : Signature} :
    s ∈ lookup name ↔ s ∈ unsorted ∧ s.name = name := by
  simp [lookup, signatures]

theorem mem_keys_iff_exists {name : String} {count : Nat} :
    (name, count) ∈ keys ↔ ∃ s ∈ lookup name, s.arity = count := by
  simp [keys, mem_lookup, Signature.key, and_assoc]

/-- There are as many signatures of a key as the key stands in the catalogue: the order in which
they are listed does not matter. -/
theorem length_filter_lookup (name : String) (count : Nat) :
    ((lookup name).filter (·.arity = count)).length = keys.count (name, count) := by
  rw [lookup, List.filter_filter, ← List.countP_eq_length_filter, signatures,
    (List.mergeSort_perm unsorted precedes).countP_eq, keys, List.count, List.countP_map]
  refine List.countP_congr fun s _ => ?_
  simp [Signature.key, and_comm]

theorem exists_filter_lookup_eq_singleton {name : String} {count : Nat}
    (h : (name, count) ∈ keys) : ∃ s, (lookup name).filter (·.arity = count) = [s] := by
  rw [← List.length_eq_one_iff, length_filter_lookup]
  exact List.count_eq_one_of_mem keys_nodup h

end Catalogue

end Predefined
