-- The room for a set of characters. Read forwards, the bytes of its characters are a tree whose
-- equal branches are shared; read backwards, they are chains that share the states at their ends.
-- Which states are shared is looked up in a memory that forgets, so a few are there twice.
import Predefined.Encoding.ByteRange
import Predefined.Pattern.Room
import Predefined.Pattern.Slots
import Predefined.Unicode.CharSet

namespace Predefined.Pattern

open Utf8 (ByteRange)

/-- A range of bytes with the state that it leads to. -/
structure Edge where
  range : ByteRange
  next : Nat
deriving DecidableEq

namespace SetRoom

def pieces (s : CharSet) : List (List ByteRange) :=
  s.ranges.flatMap fun (low, high) => Utf8.pieces low high

/-! ## Forwards -/

/-- A node of the tree that may still grow: its edges, last one first, and the range of an edge that
leads to the next node that may grow. -/
structure Twig where
  edges : List Edge
  growing : Option ByteRange

/-- The room with the nodes that are known by their edges. -/
structure Nodes where
  room : Room
  known : Slots (List Edge)

/-- The state of a node. -/
def Nodes.node (ns : Nodes) (edges : List Edge) : Option (Nat × Nodes) :=
  let slot := ns.known.slot (edges.flatMap fun e => [e.range.1, e.range.2, e.next])
  match ns.known.get? slot edges with
  | some state => some (state, ns)
  | none => do
    let state := ns.room.states
    return (state, ⟨← ns.room.reader edges.length, ns.known.set slot edges state⟩)

/-- Ends the edge that leads to a node that may grow. -/
def Twig.finish (t : Twig) (next : Nat) : Twig :=
  match t.growing with
  | some range => ⟨⟨range, next⟩ :: t.edges, none⟩
  | none => t

/-- Makes states of nodes, each being the last child of the one before. Gives the first state. -/
def close (target : Nat) : List Twig → Nodes → Option (Nat × Nodes)
  | [], ns => some (target, ns)
  | t :: rest, ns => do
    let (next, ns) ← close target rest ns
    ns.node (t.finish next).edges.reverse

/-- Adds a piece. It shares the nodes of the piece before it as far as their ranges are the same. -/
def grow (target : Nat) : List ByteRange → List Twig → Nodes → Option (List Twig × Nodes)
  | range :: piece, t :: rest, ns =>
    if t.growing = some range then do
      let (rest, ns) ← grow target piece rest ns
      return (t :: rest, ns)
    else do
      let (next, ns) ← close target rest ns
      let twigs := piece.map fun range => ⟨[], some range⟩
      return (⟨(t.finish next).edges, some range⟩ :: twigs, ns)
  | _, twigs, ns => some (twigs, ns)

/-- The number of nodes that may be known. -/
def nodeSlots : Nat := 10000

def forward (s : CharSet) (r : Room) : Option Room := do
  let target := r.states
  let ns : Nodes := ⟨← r.plain 1, .empty nodeSlots⟩
  let (twigs, ns) ← (pieces s).foldlM
    (fun (twigs, ns) piece => grow target piece twigs ns) ([⟨[], none⟩], ns)
  let (_, ns) ← close target twigs ns
  return ns.room

/-! ## Backwards -/

/-- The room with the states that are known by what they read and where they lead. -/
structure Chains where
  room : Room
  known : Slots Edge

/-- The state that reads a byte in some range, and goes on from there. -/
def Chains.state (cs : Chains) (e : Edge) : Option (Nat × Chains) :=
  let slot := cs.known.slot [e.next, e.range.1, e.range.2]
  match cs.known.get? slot e with
  | some state => some (state, cs)
  | none => do
    let state := cs.room.states
    return (state, ⟨← cs.room.plain 1, cs.known.set slot e state⟩)

/-- The number of states that may be known. -/
def chainSlots : Nat := 1000

/-- Adds a piece: a chain from its last byte to its first one, and a way into it. -/
def chain (target : Nat) (cs : Chains) (piece : List ByteRange) : Option Chains := do
  let (_, cs) ← piece.foldlM (fun (next, cs) range => cs.state ⟨range, next⟩) (target, cs)
  return { cs with room := ← cs.room.refer }

def backward (s : CharSet) (r : Room) : Option Room := do
  let r ← r.fork 0
  let target := r.states
  let cs ← (pieces s).foldlM (chain target) ⟨← r.plain 1, .empty chainSlots⟩
  return cs.room

/-! ## ASCII -/

/-- A set of ASCII characters takes one state to read them and one behind it. -/
def ascii (s : CharSet) (r : Room) : Option Room := do
  (← r.plain 1).reader s.ranges.length

end SetRoom

end Predefined.Pattern
