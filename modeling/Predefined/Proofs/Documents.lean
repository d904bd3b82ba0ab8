-- The documents of types, signatures and settings. Each of them says the whole value, so it reads
-- back, as long as it nests no deeper than documents may. Only types can nest that deep: a union
-- takes two levels, one for the object and one for the list of its parts.
import Predefined.Function.Signature
import Predefined.Proofs.JsonRecord
import Predefined.Settings

namespace Predefined

open Json Json.Record

/-! ## Nesting -/

namespace Json

mutual

/-- How deep the arrays and objects of a document nest. -/
def Tree.depth : Tree → Nat
  | .array ts => Tree.depthOfElements ts + 1
  | .object ms => Tree.depthOfMembers ms + 1
  | .null | .bool _ | .number _ | .string _ => 0

def Tree.depthOfElements : List Tree → Nat
  | [] => 0
  | t :: ts => max t.depth (Tree.depthOfElements ts)

def Tree.depthOfMembers : List (Quoted × Tree) → Nat
  | [] => 0
  | (_, t) :: ms => max t.depth (Tree.depthOfMembers ms)

end

theorem depthOfElements_le {ts : List Tree} {room : Nat} :
    Tree.depthOfElements ts ≤ room ↔ ∀ t ∈ ts, t.depth ≤ room := by
  induction ts with
  | nil => simp [Tree.depthOfElements]
  | cons t ts ih => rw [Tree.depthOfElements, Nat.max_le, ih, List.forall_mem_cons]

theorem depth_array_le {ts : List Tree} {room : Nat} :
    (Tree.array ts).depth ≤ room ↔ 0 < room ∧ ∀ t ∈ ts, t.depth ≤ room - 1 := by
  rw [Tree.depth, ← depthOfElements_le]
  omega

theorem depthOfMembers_le {fields : List (String × Tree)} {room : Nat} :
    Tree.depthOfMembers (fields.map fun (name, t) => (some name, t)) ≤ room ↔
      ∀ field ∈ fields, field.2.depth ≤ room := by
  induction fields with
  | nil => simp [Tree.depthOfMembers]
  | cons field fields ih =>
    rw [List.map_cons, Tree.depthOfMembers, Nat.max_le, ih, List.forall_mem_cons]

theorem depth_record_le {fields : List (String × Tree)} {room : Nat} :
    (Tree.record fields).depth ≤ room ↔ 0 < room ∧ ∀ field ∈ fields, field.2.depth ≤ room - 1 := by
  have hdepth : (Tree.record fields).depth =
      Tree.depthOfMembers (fields.map fun (name, t) => (some name, t)) + 1 := rfl
  rw [hdepth, ← depthOfMembers_le]
  omega

/-- What the tree of a document says, its compact and its indented text say. -/
theorem bind_parse?_of_printable {α : Type} {t : Tree} {read : Tree → Option α} {a : α}
    (ht : t.Printable) (hread : read t = some a) :
    (Tree.parse? t.compact).bind read = some a ∧ (Tree.parse? t.pretty).bind read = some a := by
  rw [parse?_compact ht, parse?_pretty ht, Option.bind_some]
  exact ⟨hread, hread⟩

end Json

/-! ## Types -/

namespace TypeInfo

mutual

theorem printable_toTree (t : TypeInfo) : t.toTree.Printable := by
  match t with
  | union types => exact printable_record (by simp [printable_toTrees types])
  | null | boolean | integer | double | string | array | object | number | any | expression =>
    trivial

theorem printable_toTrees (types : List TypeInfo) : (Tree.array (toTrees types)).Printable := by
  match types with
  | [] => trivial
  | t :: types => exact ⟨printable_toTree t, printable_toTrees types⟩

end

mutual

/-- The document of a type says the type. -/
theorem ofTree?_toTree {room : Nat} (t : TypeInfo) (h : t.toTree.depth ≤ room) :
    ofTree? room t.toTree = some t := by
  match t with
  | union types =>
    obtain ⟨-, hunion⟩ := depth_record_le.1 h
    have hparts := hunion ("Union", .array (toTrees types)) List.mem_cons_self
    obtain ⟨hroom, htypes⟩ := depth_array_le.1 hparts
    have hnot : ¬ room < 2 := by omega
    have hread : ofTrees? (room - 2) (toTrees types) = some types := ofTrees?_toTrees types htypes
    simp only [toTree, Tree.record, List.map_cons, List.map_nil, ofTree?, if_neg hnot, hread,
      Option.map_some]
  | null | boolean | integer | double | string | array | object | number | any | expression =>
    simp only [toTree, Tree.text, ofTree?]
    rfl

theorem ofTrees?_toTrees {room : Nat} (types : List TypeInfo)
    (h : ∀ t ∈ toTrees types, t.depth ≤ room) : ofTrees? room (toTrees types) = some types := by
  match types with
  | [] => rfl
  | t :: types =>
    obtain ⟨hfirst, hrest⟩ := List.forall_mem_cons.1 h
    simp only [toTrees, ofTrees?, ofTree?_toTree t hfirst, ofTrees?_toTrees types hrest]
    rfl

end

end TypeInfo

/-! ## Signatures -/

namespace Parameter

theorem printable_toTree (p : Parameter) : p.toTree.Printable := by
  refine printable_record ?_
  simp [Tree.text, Tree.Printable, p.type.printable_toTree]

theorem ofTree?_toTree {room : Nat} (p : Parameter) (h : p.toTree.depth ≤ room) :
    ofTree? room p.toTree = some p := by
  obtain ⟨-, hfields⟩ := depth_record_le.1 h
  have htype := hfields ("param_type", p.type.toTree) (by simp)
  have hread : TypeInfo.ofTree? (room - 1) p.type.toTree = some p.type :=
    TypeInfo.ofTree?_toTree p.type htype
  have hgiven : fields? ["name", "param_type"] p.toTree =
      some ([.text p.name, p.type.toTree].map some) := fields?_record (by simp) (by simp)
  unfold ofTree?
  simp [hgiven, hread]

end Parameter

namespace Signature

theorem printable_toTree (s : Signature) : s.toTree.Printable := by
  have hparameters : (Tree.array (s.parameters.map Parameter.toTree)).Printable := by
    refine printable_array fun t ht => ?_
    obtain ⟨p, -, rfl⟩ := List.mem_map.1 ht
    exact p.printable_toTree
  have htype := s.returnType.printable_toTree
  refine printable_record fun field hfield => ?_
  simp only [List.mem_cons, List.not_mem_nil, or_false] at hfield
  rcases hfield with rfl | rfl | rfl | rfl | rfl
  · trivial
  · exact hparameters
  · exact htype
  · trivial
  · trivial

theorem parameters?_array {room : Nat} {parameters : List Parameter}
    (h : (Tree.array (parameters.map Parameter.toTree)).depth ≤ room) :
    parameters? room (.array (parameters.map Parameter.toTree)) = some parameters := by
  obtain ⟨-, hparameters⟩ := depth_array_le.1 h
  refine Json.mapM_of_forall₂ (List.forall₂_map_left_iff.2 (List.forall₂_same.2 ?_))
  intro p hp
  exact p.ofTree?_toTree (hparameters _ (List.mem_map_of_mem hp))

/-- The document of a signature says the signature. -/
theorem ofTree?_toTree {room : Nat} (s : Signature) (h : s.toTree.depth ≤ room) :
    ofTree? room s.toTree = some s := by
  obtain ⟨-, hfields⟩ := depth_record_le.1 h
  let parameters := Tree.array (s.parameters.map Parameter.toTree)
  have hparameters := hfields ("parameters", parameters) (by simp [parameters])
  have htype := hfields ("return_type", s.returnType.toTree) (by simp)
  have hreadParameters : parameters? (room - 1) parameters = some s.parameters :=
    parameters?_array hparameters
  have hreadType : TypeInfo.ofTree? (room - 1) s.returnType.toTree = some s.returnType :=
    TypeInfo.ofTree?_toTree s.returnType htype
  have hgiven : fields? ["name", "parameters", "return_type", "pure", "documentation"] s.toTree =
      some ([.text s.name, parameters, s.returnType.toTree, .bool s.isPure,
        .text s.documentation].map some) := fields?_record (by simp) (by simp [parameters])
  unfold ofTree?
  simp [hgiven, hreadParameters, hreadType]

end Signature

/-! ## Settings -/

theorem OverflowPolicy.ofTree?_text (p : OverflowPolicy) : ofTree? (.text p.name) = some p := by
  cases p <;> rfl

namespace Settings

theorem printable_toTree (s : Settings) : s.toTree.Printable := by
  refine printable_record ?_
  simp [Tree.text, Tree.Printable]

/-- The document of settings says the settings. -/
theorem ofTree?_toTree (s : Settings) : ofTree? s.toTree = some s := by
  have hgiven : fields? fieldNames s.toTree =
      some ([.text s.vaultPrefix, .text s.overflow.name].map some) :=
    fields?_record (by simp) (by simp [fieldNames])
  unfold ofTree?
  simp [hgiven, OverflowPolicy.ofTree?_text]

end Settings

/-! ## Reading back -/

/-- Types, signatures and settings read back from the compact and from the indented text of their
documents. Whatever their names and their documentation are, only the nesting of the types matters:
the documents of settings never nest too deep. -/
theorem types_signatures_and_settings_read_back :
    (∀ t : TypeInfo, t.toTree.depth ≤ nestingLimit →
      TypeInfo.parse? t.toTree.compact = some t ∧ TypeInfo.parse? t.toTree.pretty = some t) ∧
    (∀ s : Signature, s.toTree.depth ≤ nestingLimit →
      Signature.parse? s.toTree.compact = some s ∧ Signature.parse? s.toTree.pretty = some s) ∧
    ∀ s : Settings, Settings.parse? s.compact = some s ∧
      Settings.parse? s.toTree.pretty = some s := by
  refine ⟨?types, ?signatures, ?settings⟩
  case types =>
    intro t h
    unfold TypeInfo.parse?
    exact bind_parse?_of_printable t.printable_toTree (t.ofTree?_toTree h)
  case signatures =>
    intro s h
    unfold Signature.parse?
    exact bind_parse?_of_printable s.printable_toTree (s.ofTree?_toTree h)
  case settings =>
    intro s
    unfold Settings.parse? Settings.compact
    exact bind_parse?_of_printable s.printable_toTree s.ofTree?_toTree

/-- A union with an empty union in it, a signature whose texts are escaped, and settings. -/
theorem a_nested_union_its_signature_and_settings_read_back :
    let t : TypeInfo := .union [.union [], .string]
    let s : Signature := ⟨"\"f\"\n", [⟨"a", t⟩, ⟨"", .any⟩], .union [], false, "\\é"⟩
    let settings : Settings := ⟨"?", .saturate⟩
    (t.toTree.depth ≤ nestingLimit ∧
      TypeInfo.parse? "\x7b\"Union\":[\x7b\"Union\":[]\x7d,\"String\"]\x7d" = some t) ∧
    (s.toTree.depth ≤ nestingLimit ∧ Signature.parse? s.toTree.compact = some s) ∧
    Settings.parse? "\x7b\"vault_lookup_prefix\":\"?\",\"round_overflow\":\"saturate\"\x7d" =
      some settings := by
  intro t s settings
  have htype : t.toTree.depth ≤ nestingLimit := by decide
  have hsignature : s.toTree.depth ≤ nestingLimit := by decide
  have htypeText : t.toTree.compact =
      "\x7b\"Union\":[\x7b\"Union\":[]\x7d,\"String\"]\x7d" := by decide +kernel
  have hsettingsText : settings.compact =
      "\x7b\"vault_lookup_prefix\":\"?\",\"round_overflow\":\"saturate\"\x7d" := by
    decide +kernel
  obtain ⟨htypes, hsignatures, hsettings⟩ := types_signatures_and_settings_read_back
  rw [← htypeText, ← hsettingsText]
  exact ⟨⟨htype, (htypes t htype).1⟩, ⟨hsignature, (hsignatures s hsignature).1⟩,
    (hsettings settings).1⟩

end Predefined
