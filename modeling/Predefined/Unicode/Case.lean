-- The case mappings of text. They may change the number of characters, and one letter looks at its
-- neighbours: the capital sigma becomes a final sigma at the end of a word.
import Predefined.Unicode.CaseTable
import Predefined.Unicode.Letter

namespace Predefined.Unicode

/-! ## Single characters -/

def lowerRuns : Array CaseTable.Run :=
  CaseTable.runs CaseTable.lower

def upperRuns : Array CaseTable.Run :=
  CaseTable.runs CaseTable.upper

/-- The lower-case form of a character by itself. Only the capital I with a dot has a longer one. -/
def lowerChar (c : Char) : List Char :=
  if c = '\u0130' then ['i', '\u0307']
  else [Char.ofNat ((CaseTable.map? lowerRuns c.toNat).getD c.toNat)]

/-- An item of the table of sequences: a character and the text after the colon, split at commas. -/
def itemSequence (item : List Char) : Nat × List Char :=
  let source := item.takeWhile (· ≠ ':')
  let targets := (item.dropWhile (· ≠ ':')).drop 1
  let (target, done) := targets.foldl
    (fun (target, done) c => if c = ',' then ([], target.reverse :: done) else (c :: target, done))
    (([] : List Char), ([] : List (List Char)))
  (CharSet.hexNumber source,
    ((target.reverse :: done).reverse).map fun t => Char.ofNat (CharSet.hexNumber t))

def upperSequences : List (Nat × List Char) :=
  (CharSet.items CaseTable.upperSequences).map itemSequence

/-- The upper-case form of a character. -/
def upperChar (c : Char) : List Char :=
  match CaseTable.map? upperRuns c.toNat with
  | some n => [Char.ofNat n]
  | none =>
    match upperSequences.find? (·.1 = c.toNat) with
    | some (_, cs) => cs
    | none => [c]

/-! ## Text -/

def casedRanges : Array (Nat × Nat) :=
  Letter.cased.ranges.toArray

def caseIgnorableRanges : Array (Nat × Nat) :=
  Letter.caseIgnorable.ranges.toArray

def isCased (c : Char) : Bool :=
  CharSet.inRanges casedRanges c.toNat

def isCaseIgnorable (c : Char) : Bool :=
  CharSet.inRanges caseIgnorableRanges c.toNat

/-- Whether the next character that is not passed over is a cased one. -/
def reachesCased (cs : List Char) : Bool :=
  match cs.dropWhile isCaseIgnorable with
  | c :: _ => isCased c
  | [] => false

/-- The small sigma between the text before it, nearest first, and the text after it. It is final
when a word ends with it. -/
def smallSigma (before after : List Char) : Char :=
  if reachesCased before && !reachesCased after then '\u03C2' else '\u03C3'

/-- Lower case, after the characters of `before`, nearest first. -/
def lowerAfter (before : List Char) : List Char → List Char
  | [] => []
  | c :: rest =>
    if c = '\u03A3' then smallSigma before rest :: lowerAfter (c :: before) rest
    else lowerChar c ++ lowerAfter (c :: before) rest

def toLower (s : List Char) : List Char :=
  lowerAfter [] s

def toUpper (s : List Char) : List Char :=
  s.flatMap upperChar

/-! ## Alike but for case -/

/-- Each character that differs from another one in case alone, with the least such one. -/
def foldPairs : List (Nat × Nat) :=
  (CaseTable.runs CaseTable.fold).toList.flatMap fun r =>
    (List.range ((r.high - r.low) / r.step + 1)).map fun i =>
      (r.low + i * r.step, r.target + i * r.step)

/-- Adds to a set every character that differs from one of its own in case alone. -/
def foldSet (s : CharSet) : CharSet :=
  let ranges := s.ranges.toArray
  let least := foldPairs.filterMap fun (c, l) =>
    if CharSet.inRanges ranges c then some (l, l) else none
  let ranges := (s.union (CharSet.ofRanges least)).ranges.toArray
  let more := foldPairs.filterMap fun (c, l) =>
    if CharSet.inRanges ranges l then some (c, c) else none
  CharSet.ofRanges (s.ranges ++ least ++ more)

end Predefined.Unicode
