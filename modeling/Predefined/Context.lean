-- A host kept in memory. Its tables are filled by a document and by single writes, of which the
-- last one counts, and it remembers every look-up that is made. Look-ups change nothing else.
import Predefined.Dictionary
import Predefined.Host
import Predefined.Json.Record
import Predefined.Settings

namespace Predefined

open Json

/-- A look-up as a context remembers it. -/
inductive Lookup where
  | resource (key : String)
  | property (key name : String)
  | secret (key : String)
  | xpath (expression : String)
deriving DecidableEq

/-- A registry resource. -/
structure Resource where
  content : String
  properties : Dictionary String

structure Context where
  registry : Dictionary Resource
  secrets : Dictionary String
  xpath : Dictionary Json
  /-- The start of the answer to an unknown alias. -/
  vaultPrefix : String
  /-- The look-ups made so far, in order. -/
  calls : Array Lookup

namespace Context

def empty : Context where
  registry := .empty
  secrets := .empty
  xpath := .empty
  vaultPrefix := defaultVaultPrefix
  calls := #[]

/-! ## Writes -/

/-- The resource under a key, empty when there is none. -/
def resourceOrEmpty (c : Context) (key : String) : Resource :=
  (c.registry.get? key).getD ⟨"", .empty⟩

/-- Sets the content of a resource and keeps its properties. -/
def withResource (key content : String) (c : Context) : Context :=
  let r := c.resourceOrEmpty key
  { c with registry := c.registry.insert key { r with content } }

/-- Sets a property of a resource, which is made when it is missing. -/
def withProperty (key name value : String) (c : Context) : Context :=
  let r := c.resourceOrEmpty key
  let properties := r.properties.insert name value
  { c with registry := c.registry.insert key { r with properties } }

def withSecret (key value : String) (c : Context) : Context :=
  { c with secrets := c.secrets.insert key value }

def withXPath (expression : String) (result : Json) (c : Context) : Context :=
  { c with xpath := c.xpath.insert expression result }

def withVaultPrefix (start : String) (c : Context) : Context :=
  { c with vaultPrefix := start }

/-- A single write to a context. -/
inductive Write where
  | resource (key content : String)
  | property (key name value : String)
  | secret (key value : String)
  | xpath (expression : String) (result : Json)
  | vaultPrefix (start : String)

def write (c : Context) : Write → Context
  | .resource key content => c.withResource key content
  | .property key name value => c.withProperty key name value
  | .secret key value => c.withSecret key value
  | .xpath expression result => c.withXPath expression result
  | .vaultPrefix start => c.withVaultPrefix start

/-! ## Answers -/

def record (call : Lookup) (c : Context) : Context :=
  { c with calls := c.calls.push call }

def resource? (c : Context) (key : String) : Option String :=
  (c.registry.get? key).map (·.content)

def property? (c : Context) (key name : String) : Option String :=
  (c.registry.get? key).bind fun r => r.properties.get? name

/-- A key that is no alias is answered with a mark that names it. -/
def secret (c : Context) (key : String) : String :=
  (c.secrets.get? key).getD (c.vaultPrefix ++ key ++ ")")

def xpathResult (c : Context) (expression : String) : Except HostError Value :=
  match c.xpath.get? expression with
  | some j => .ok (Value.ofJson j)
  | none => .error (.xpath ("cannot evaluate '" ++ expression ++ "'"))

/-- A context as a host, at a given time. -/
def host (clock : Int64) : Host Context where
  resource key c := (.ok (c.resource? key), c.record (.resource key))
  property key name c := (c.property? key name, c.record (.property key name))
  secret key c := (.ok (c.secret key), c.record (.secret key))
  xpath expression c := (c.xpathResult expression, c.record (.xpath expression))
  clock := clock

/-! ## Documents -/

/-- A table of strings. -/
def strings? (t : Tree) : Option (Dictionary String) :=
  (Record.pairs? Record.string? t).map .ofPairs

def Resource.ofTree? (t : Tree) : Option Resource := do
  match ← Record.fields? ["content", "properties"] t with
  | [content, properties] =>
    let content ← Record.required Record.string? content
    let properties ← Record.optional .empty strings? properties
    pure { content, properties }
  | _ => none

def registry? (t : Tree) : Option (Dictionary Resource) :=
  (Record.pairs? Resource.ofTree? t).map .ofPairs

/-- A table of JSON values in a document that may nest `room` levels deep. -/
def values? (room : Nat) (t : Tree) : Option (Dictionary Json) :=
  (Record.pairs? (Json.ofTree? (room - 1)) t).map .ofPairs

/-- Reads a context from a document that may nest `room` levels deep. -/
def ofTree? (room : Nat) (t : Tree) : Option Context := do
  match ← Record.fields? ["registry", "secrets", "xpath", "vault_lookup_prefix"] t with
  | [registry, secrets, xpath, vault] =>
    let registry ← Record.optional .empty registry? registry
    let secrets ← Record.optional .empty strings? secrets
    let xpath ← Record.optional .empty (values? (room - 1)) xpath
    let vaultPrefix ← Record.optional defaultVaultPrefix Record.string? vault
    pure { registry, secrets, xpath, vaultPrefix, calls := #[] }
  | _ => none

/-- Reads a document. The context it gives remembers no look-ups. -/
def parse? (document : String) : Option Context :=
  (Tree.parse? document).bind (ofTree? nestingLimit)

/-- A table as an object, its keys in order. -/
def tableTree {α : Type} (toTree : α → Tree) (d : Dictionary α) : Tree :=
  Tree.record (d.entries.map fun (key, a) => (key, toTree a))

def resourceTree (r : Resource) : Tree :=
  Tree.record [("content", .text r.content), ("properties", tableTree .text r.properties)]

/-- The document of a context, without its look-ups. All keys are in order. -/
def toTree (c : Context) : Tree :=
  Tree.record [
    ("registry", tableTree resourceTree c.registry),
    ("secrets", tableTree .text c.secrets),
    ("vault_lookup_prefix", .text c.vaultPrefix),
    ("xpath", tableTree Json.toTree c.xpath)]

def compact (c : Context) : String :=
  c.toTree.compact

end Context

end Predefined
