-- Tables from text to values, with their order kept by construction.
import Predefined.Table

namespace Predefined

/-- A table whose keys are strictly increasing. -/
structure Dictionary (α : Type) where
  entries : List (String × α)
  sorted : Table.Sorted entries

namespace Dictionary

variable {α : Type}

def empty : Dictionary α :=
  ⟨[], List.Pairwise.nil⟩

/-- The value under a key. -/
def get? (d : Dictionary α) (key : String) : Option α :=
  Table.get? key d.entries

/-- Puts a value under a key. A value that was there is replaced. -/
def insert (d : Dictionary α) (key : String) (a : α) : Dictionary α :=
  ⟨Table.insert key a d.entries, Table.sorted_insert key a d.sorted⟩

/-- The dictionary of pairs in any order; of two pairs with one key the later one counts. -/
def ofPairs (pairs : List (String × α)) : Dictionary α :=
  ⟨Table.ofPairs pairs, Table.sorted_ofPairs pairs⟩

end Dictionary

end Predefined
