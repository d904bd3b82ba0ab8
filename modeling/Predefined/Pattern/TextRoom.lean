-- The room for alternatives that are texts. Texts that start alike share the states for their
-- start. A text that ends where others go on is a way out in front of those that come after it, as
-- the first one of two alternatives is preferred.
import Predefined.Pattern.Room

namespace Predefined.Pattern.TextRoom

/-- What is left of each text behind a start that all of them have, preferred ones first. -/
abbrev Node := List (List UInt8)

/-- Nothing is added by a second text that ends at a node where no text went on before. -/
def Node.distinct : Node → Node
  | [] :: rest => [] :: rest.dropWhile List.isEmpty
  | ts => ts

/-- The texts between those that end at a node. -/
def Node.runs (n : Node) : List Node :=
  n.foldr
    (fun t runs =>
      match t, runs with
      | [], runs => [] :: runs
      | t, run :: runs => (t :: run) :: runs
      | t, [] => [[t]])
    [[]]

/-- Adds a text to the children of a node, by its first byte. -/
def addChild (first : UInt8) (rest : List UInt8) : List (UInt8 × Node) → List (UInt8 × Node)
  | [] => [(first, [rest])]
  | (b, n) :: more =>
    if b = first then (b, rest :: n) :: more else (b, n) :: addChild first rest more

/-- The nodes behind one byte, for texts that have one. -/
def Node.children (n : Node) : List (UInt8 × Node) :=
  n.foldr
    (fun t children =>
      match t with
      | b :: rest => addChild b rest children
      | [] => children)
    []

/-- Adds a node, and gives its children where texts go on. Each run takes a state to read a byte,
and one state has the ways to them and to the end. -/
def Node.add (n : Node) (r : Room) : Option (List Node × Room) := do
  let n := n.distinct
  let runs := (n.runs.map Node.children).filter fun children => !children.isEmpty
  let r ← runs.foldlM (fun r children =>
    if children.length = 1 then r.plain 1 else r.reader children.length) r
  let r ← r.fork (runs.length + n.countP List.isEmpty)
  let children := runs.flatMap fun children => children.map (·.2)
  return (children.filter fun n => !n.all List.isEmpty, r)

/-- Adds the nodes that lie equally far from the start, then those behind them. No text is longer
than the bound. -/
def levels : (bound : Nat) → List Node → Room → Option Room
  | 0, _, r => some r
  | bound + 1, nodes, r => do
    let (next, r) ← nodes.foldlM
      (fun (next, r) n => do
        let (children, r) ← n.add r
        return (children ++ next, r))
      (([] : List Node), r)
    if next.isEmpty then return r else levels bound next r

/-- The room for texts by their bytes. The first state added is the end of all of them. -/
def texts (ts : List (List UInt8)) (r : Room) : Option Room := do
  let longest := ts.foldl (fun n t => max n t.length) 0
  levels (longest + 1) [ts] (← r.plain 1)

end Predefined.Pattern.TextRoom
