-- The document of a context. It holds all that a context answers from, and nothing in it depends on
-- the order in which fields and members are written, so each text that a context may be written as
-- reads back. The context that was read remembers nothing, and no evaluation can tell it from the
-- first one.
import Predefined.Proofs.JsonRecord
import Predefined.Proofs.Session

namespace Predefined

namespace Context

open Json Json.Record

/-! ## Documents -/

/-- A document of a resource, with its fields and its properties in any order. -/
def IsResource (r : Predefined.Resource) (t : Tree) : Prop :=
  ∃ properties, IsTable IsText r.properties properties ∧
    IsRecord [("content", .text r.content), ("properties", properties)] t

/-- A document of a context, with its fields and the members of its tables in any order. -/
def IsDocument (c : Context) (t : Tree) : Prop :=
  ∃ registry secrets xpath, IsTable IsResource c.registry registry ∧
    IsTable IsText c.secrets secrets ∧ IsTable (fun j u => u = j.toTree) c.xpath xpath ∧
    IsRecord [("registry", registry), ("secrets", secrets),
      ("vault_lookup_prefix", .text c.vaultPrefix), ("xpath", xpath)] t

theorem isResource_resourceTree (r : Predefined.Resource) : IsResource r (resourceTree r) :=
  ⟨_, isTable_entries .text fun _ => rfl, isRecord_record _⟩

theorem isDocument_toTree (c : Context) : c.IsDocument c.toTree :=
  ⟨_, _, _, isTable_entries resourceTree isResource_resourceTree,
    isTable_entries .text fun _ => rfl, isTable_entries Json.toTree fun _ => rfl,
    isRecord_record _⟩

/-- A text that a context may be written as. -/
def WrittenAs (c : Context) (document : String) : Prop :=
  ∃ t, c.IsDocument t ∧ document = t.compact

/-- The values of the XPath table read back: the document and the table are two of the levels that
it may nest. -/
def Readable (c : Context) : Prop :=
  ∀ entry ∈ c.xpath.entries, entry.2.Readable 125

/-! ## Reading -/

theorem resource?_of_isResource {r : Predefined.Resource} {t : Tree} (h : IsResource r t) :
    Context.Resource.ofTree? t = some r := by
  obtain ⟨properties, hproperties, hrecord⟩ := h
  have hfields := hrecord.fields? ["content", "properties"] [.text r.content, properties]
    (by simp) (by simp)
  have hread : strings? properties = some r.properties :=
    hproperties.read fun _ _ _ hu => hu.read
  unfold Context.Resource.ofTree?
  simp [hfields, hread]

theorem printable_of_isResource {r : Predefined.Resource} {t : Tree} (h : IsResource r t) :
    t.Printable := by
  obtain ⟨properties, hproperties, hrecord⟩ := h
  have hprintable : properties.Printable := hproperties.printable fun _ _ _ hu => hu.printable
  refine hrecord.printable ?_
  intro field hfield
  simp only [List.mem_cons, List.not_mem_nil, or_false] at hfield
  rcases hfield with rfl | rfl
  · trivial
  · exact hprintable

theorem printable_of_isDocument {c : Context} (hc : c.Readable) {t : Tree} (h : c.IsDocument t) :
    t.Printable := by
  obtain ⟨registry, secrets, xpath, hregistry, hsecrets, hxpath, hrecord⟩ := h
  refine hrecord.printable ?_
  intro field hfield
  simp only [List.mem_cons, List.not_mem_nil, or_false] at hfield
  rcases hfield with rfl | rfl | rfl | rfl
  · exact hregistry.printable fun _ _ _ hu => printable_of_isResource hu
  · exact hsecrets.printable fun _ _ _ hu => hu.printable
  · trivial
  · refine hxpath.printable fun entry hentry u hu => ?_
    rw [hu]
    exact printable_toTree entry.2 (hc entry hentry)

/-- Every document of a context says what its stores hold, and nothing is remembered. -/
theorem ofTree?_of_isDocument {c : Context} (hc : c.Readable) {t : Tree} (h : c.IsDocument t) :
    ofTree? nestingLimit t = some { c with calls := #[] } := by
  obtain ⟨registry, secrets, xpath, hregistry, hsecrets, hxpath, hrecord⟩ := h
  have hfields := hrecord.fields? ["registry", "secrets", "xpath", "vault_lookup_prefix"]
    [registry, secrets, xpath, .text c.vaultPrefix] (by simp) (by simp)
  have hreadRegistry : registry? registry = some c.registry :=
    hregistry.read fun _ _ _ hu => resource?_of_isResource hu
  have hreadSecrets : strings? secrets = some c.secrets :=
    hsecrets.read fun _ _ _ hu => hu.read
  have hreadXPath : values? (nestingLimit - 1) xpath = some c.xpath := by
    refine hxpath.read fun entry hentry u hu => ?_
    rw [hu]
    exact ofTree?_toTree entry.2 (hc entry hentry)
  unfold ofTree?
  simp [hfields, hreadRegistry, hreadSecrets, hreadXPath]

theorem parse?_of_writtenAs {c : Context} (hc : c.Readable) {document : String}
    (h : c.WrittenAs document) : parse? document = some { c with calls := #[] } := by
  obtain ⟨t, ht, rfl⟩ := h
  unfold parse?
  rw [parse?_compact (printable_of_isDocument hc ht), Option.bind_some, ofTree?_of_isDocument hc ht]

/-! ## The context that was read -/

/-- A context can be written, and from each of its texts it reads back: with the same stores, and
with nothing remembered. So every expression that does not ask for the time gets the same answer in
the context that was read, with the same look-ups. How the context came about does not matter. -/
theorem a_context_reads_back_from_its_document {c : Context} (hc : c.Readable) :
    c.WrittenAs c.compact ∧ ∀ document, c.WrittenAs document →
      ∃ d, parse? document = some d ∧ c.SameStores d ∧ d.calls = #[] ∧
        ∀ (clock clock' : Int64) (e : Expr), e.Timeless →
          (d.evaluate clock e).1 = (c.evaluate clock' e).1 := by
  refine ⟨⟨c.toTree, c.isDocument_toTree, rfl⟩, fun document hdocument => ?_⟩
  have hstores : ({ c with calls := #[] } : Context).SameStores c := ⟨rfl, rfl, rfl, rfl⟩
  refine ⟨{ c with calls := #[] }, parse?_of_writtenAs hc hdocument, ⟨rfl, rfl, rfl, rfl⟩, rfl, ?_⟩
  intro clock clock' e he
  exact (evaluate_sideBySide hstores clock clock' e (Or.inr he)).1

/-- The fields stand in another order than in the tree of the context, and so do the secrets. -/
theorem a_context_reads_back_from_a_text_in_another_order :
    let seven : Json := .number (.integer 7 (by decide))
    let stores := ((empty.withProperty "r" "env" "test").withSecret "a" "\"1\"").withSecret "b" "2"
    let c := (stores.withXPath "//x" (.array [seven])).record (.secret "a")
    let document := "\x7b\"registry\":\x7b\"r\":\x7b"
      ++ "\"content\":\"\",\"properties\":\x7b\"env\":\"test\"\x7d\x7d\x7d,"
      ++ "\"secrets\":\x7b\"b\":\"2\",\"a\":\"\\\"1\\\"\"\x7d,\"xpath\":\x7b\"//x\":[7]\x7d,"
      ++ "\"vault_lookup_prefix\":\"wso2:vault-lookup(\"\x7d"
    c.Readable ∧ c.WrittenAs document ∧ c.calls = #[.secret "a"] ∧
      ∃ d, parse? document = some d ∧ c.SameStores d ∧ d.calls = #[] := by
  intro seven stores c document
  have hreadable : c.Readable := by
    intro entry hentry
    obtain rfl : entry = ("//x", .array [seven]) := List.mem_singleton.1 hentry
    exact ⟨by decide, ⟨_, _, rfl⟩, trivial⟩
  let registry := tableTree resourceTree c.registry
  let secrets := Tree.record [("b", .text "2"), ("a", .text "\"1\"")]
  let xpath := tableTree Json.toTree c.xpath
  have hsecrets : IsTable IsText c.secrets secrets := by
    refine ⟨[("b", "2", .text "2"), ("a", "\"1\"", .text "\"1\"")], ?_, ?_, rfl⟩
    · exact .swap _ _ _
    · simp [IsText]
  have hrecord : IsRecord [("registry", registry), ("secrets", secrets),
      ("vault_lookup_prefix", .text c.vaultPrefix), ("xpath", xpath)]
      (Tree.record [("registry", registry), ("secrets", secrets), ("xpath", xpath),
        ("vault_lookup_prefix", .text c.vaultPrefix)]) :=
    ⟨_, ((List.Perm.swap _ _ []).cons _).cons _, rfl⟩
  have hwritten : c.WrittenAs document := by
    refine ⟨_, ⟨registry, secrets, xpath, ?_, hsecrets, ?_, hrecord⟩, ?_⟩
    · exact isTable_entries resourceTree isResource_resourceTree
    · exact isTable_entries Json.toTree fun _ => rfl
    · decide +kernel
  obtain ⟨-, hread⟩ := a_context_reads_back_from_its_document hreadable
  obtain ⟨d, hparse, hstores, hcalls, -⟩ := hread document hwritten
  exact ⟨hreadable, hwritten, rfl, d, hparse, hstores, hcalls⟩

end Context

end Predefined
