-- Documents with fixed fields read back. A field is found by its name and not by its place, so the
-- fields of a document may stand in any order. So may the members of a table.
import Mathlib.Data.List.Forall2
import Predefined.Dictionary
import Predefined.Json.Record
import Predefined.Proofs.JsonValue

namespace Predefined.Json

/-- A list reads as another one when its elements do. -/
theorem mapM_of_forall₂ {α β : Type} {read : α → Option β} {as : List α} {bs : List β}
    (h : List.Forall₂ (fun a b => read a = some b) as bs) : as.mapM read = some bs := by
  induction h with
  | nil => rfl
  | cons hread _ ih =>
    rw [List.mapM_cons, hread, ih]
    rfl

/-! ## Printing -/

theorem printable_record {fields : List (String × Tree)}
    (h : ∀ field ∈ fields, field.2.Printable) : (Tree.record fields).Printable := by
  unfold Tree.record Tree.Printable
  induction fields with
  | nil => trivial
  | cons field rest ih =>
    have hrest := ih fun other hother => h other (List.mem_cons_of_mem _ hother)
    exact ⟨h field List.mem_cons_self, hrest⟩

theorem printable_array {ts : List Tree} (h : ∀ t ∈ ts, t.Printable) :
    (Tree.array ts).Printable := by
  unfold Tree.Printable
  induction ts with
  | nil => trivial
  | cons t rest ih =>
    have hrest := ih fun other hother => h other (List.mem_cons_of_mem _ hother)
    exact ⟨h t List.mem_cons_self, hrest⟩

namespace Record

/-! ## Fields -/

theorem valuesOf_of_not_mem {name : String} {fields : List (String × Tree)}
    (h : name ∉ fields.map (·.1)) :
    valuesOf name (fields.map fun (key, t) => (some key, t)) = [] := by
  unfold valuesOf
  rw [List.filterMap_map, List.filterMap_eq_nil_iff]
  intro field hfield
  have hne : field.1 ≠ name := fun he => h (List.mem_map.2 ⟨field, hfield, he⟩)
  simp [hne]

/-- A field that is given once has one value. -/
theorem valuesOf_of_mem {name : String} {t : Tree} {fields : List (String × Tree)}
    (hkeys : (fields.map (·.1)).Nodup) (h : (name, t) ∈ fields) :
    valuesOf name (fields.map fun (key, t) => (some key, t)) = [t] := by
  induction fields with
  | nil => cases h
  | cons field rest ih =>
    obtain ⟨hnew, hrest⟩ := List.nodup_cons.1 hkeys
    have hcons : valuesOf name ((field :: rest).map fun (key, t) => (some key, t)) =
        (if field.1 = name then [field.2] else []) ++
          valuesOf name (rest.map fun (key, t) => (some key, t)) := by
      unfold valuesOf
      by_cases he : field.1 = name <;> simp [he]
    rw [hcons]
    rcases List.mem_cons.1 h with rfl | hmem
    · rw [if_pos rfl, valuesOf_of_not_mem hnew, List.append_nil]
    · have hne : field.1 ≠ name := by
        intro he
        exact hnew (List.mem_map.2 ⟨(name, t), hmem, he.symm⟩)
      rw [if_neg hne, List.nil_append, ih hrest hmem]

/-- The fields of a document that gives each of them once, whatever else it has. -/
theorem fields?_record {names : List String} {fields : List (String × Tree)} {values : List Tree}
    (hkeys : (fields.map (·.1)).Nodup)
    (h : List.Forall₂ (fun name t => (name, t) ∈ fields) names values) :
    fields? names (Tree.record fields) = some (values.map some) := by
  have htext : (fields.map fun (key, t) => ((some key : Quoted), t)).any (·.1.isNone) = false := by
    simp
  show (if _ then none else List.mapM _ names) = _
  rw [htext, if_neg Bool.false_ne_true]
  refine mapM_of_forall₂ (List.forall₂_map_right_iff.2 (h.imp fun name t hmem => ?_))
  rw [valuesOf_of_mem hkeys hmem]
  rfl

@[simp] theorem required_some {α : Type} (read : Tree → Option α) (t : Tree) :
    required read (some t) = read t := rfl

@[simp] theorem optional_some {α : Type} (default : α) (read : Tree → Option α) (t : Tree) :
    Record.optional default read (some t) = read t := rfl

@[simp] theorem string?_text (s : String) : string? (.text s) = some s := rfl

@[simp] theorem bool?_bool (b : Bool) : bool? (.bool b) = some b := rfl

/-- A document with the given fields, in any order. -/
def IsRecord (fields : List (String × Tree)) (t : Tree) : Prop :=
  ∃ given : List (String × Tree), given.Perm fields ∧ t = Tree.record given

theorem isRecord_record (fields : List (String × Tree)) : IsRecord fields (Tree.record fields) :=
  ⟨fields, .refl fields, rfl⟩

section IsRecord

variable {fields : List (String × Tree)} {t : Tree}

theorem IsRecord.fields? (h : IsRecord fields t) (names : List String) (values : List Tree)
    (hkeys : (fields.map (·.1)).Nodup)
    (hnames : List.Forall₂ (fun name u => (name, u) ∈ fields) names values) :
    Record.fields? names t = some (values.map some) := by
  obtain ⟨given, hperm, rfl⟩ := h
  refine fields?_record ((hperm.map _).nodup_iff.2 hkeys) ?_
  exact hnames.imp fun name u hmem => hperm.mem_iff.2 hmem

theorem IsRecord.printable (h : IsRecord fields t) (hfields : ∀ field ∈ fields, field.2.Printable) :
    t.Printable := by
  obtain ⟨given, hperm, rfl⟩ := h
  exact printable_record fun field hmem => hfields field (hperm.mem_iff.1 hmem)

end IsRecord

/-! ## Tables -/

/-- A document of a text. -/
def IsText (s : String) (t : Tree) : Prop :=
  t = .text s

theorem IsText.read {s : String} {t : Tree} (h : IsText s t) : string? t = some s := by
  rw [h, string?_text]

theorem IsText.printable {s : String} {t : Tree} (h : IsText s t) : t.Printable := by
  rw [h]
  trivial

/-- A document of a table: a member for each entry, in any order, with a document of the value. -/
def IsTable {α : Type} (isValue : α → Tree → Prop) (d : Dictionary α) (t : Tree) : Prop :=
  ∃ members : List (String × α × Tree), (members.map fun (key, a, _) => (key, a)).Perm d.entries ∧
    (∀ member ∈ members, isValue member.2.1 member.2.2) ∧
    t = Tree.record (members.map fun (key, _, u) => (key, u))

section IsTable

variable {α : Type} {isValue : α → Tree → Prop} {d : Dictionary α} {t : Tree}

/-- The table in the order of its keys is one of its documents. -/
theorem isTable_entries (toTree : α → Tree) (hvalue : ∀ a, isValue a (toTree a)) :
    IsTable isValue d (Tree.record (d.entries.map fun (key, a) => (key, toTree a))) := by
  refine ⟨d.entries.map fun (key, a) => (key, a, toTree a), ?_, ?_, ?_⟩
  · rw [List.map_map]
    exact .of_eq (List.map_id' _)
  · intro member hmember
    obtain ⟨entry, -, rfl⟩ := List.mem_map.1 hmember
    exact hvalue entry.2
  · rw [List.map_map]
    rfl

theorem pairs?_record {read : Tree → Option α} {members : List (String × α × Tree)}
    (h : ∀ member ∈ members, read member.2.2 = some member.2.1) :
    pairs? read (Tree.record (members.map fun (key, _, u) => (key, u))) =
      some (members.map fun (key, a, _) => (key, a)) := by
  show List.mapM _ (List.map _ (List.map _ members)) = _
  rw [List.map_map]
  refine mapM_of_forall₂ (List.forall₂_map_left_iff.2 (List.forall₂_map_right_iff.2 ?_))
  refine List.forall₂_same.2 fun member hmember => ?_
  simp only [Function.comp, h member hmember]
  rfl

/-- Every document of a table reads as the table. -/
theorem IsTable.read (h : IsTable isValue d t) {read : Tree → Option α}
    (hread : ∀ entry ∈ d.entries, ∀ u, isValue entry.2 u → read u = some entry.2) :
    (pairs? read t).map .ofPairs = some d := by
  obtain ⟨members, hperm, hvalues, rfl⟩ := h
  have hentry : ∀ member ∈ members, (member.1, member.2.1) ∈ d.entries :=
    fun member hmember => hperm.mem_iff.1 (List.mem_map.2 ⟨member, hmember, rfl⟩)
  have hpairs := pairs?_record fun member hmember =>
    hread _ (hentry member hmember) _ (hvalues member hmember)
  rw [hpairs, Option.map_some, Option.some.injEq]
  unfold Dictionary.ofPairs
  congr 1
  exact Table.ofPairs_of_perm d.sorted hperm

theorem IsTable.printable (h : IsTable isValue d t)
    (hvalues : ∀ entry ∈ d.entries, ∀ u, isValue entry.2 u → u.Printable) : t.Printable := by
  obtain ⟨members, hperm, hmembers, rfl⟩ := h
  refine printable_record fun field hfield => ?_
  obtain ⟨member, hmember, rfl⟩ := List.mem_map.1 hfield
  have hentry := hperm.mem_iff.1 (List.mem_map.2 ⟨member, hmember, rfl⟩)
  exact hvalues _ hentry _ (hmembers member hmember)

end IsTable

end Record

end Predefined.Json
