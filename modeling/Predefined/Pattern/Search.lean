-- Running a program over a text. All threads of a run stand at the same place, in the order of
-- preference, and no two of them at the same instruction: of two that meet, only the preferred one
-- goes on. So a run takes time in the product of the two lengths, whatever the pattern is.
import Predefined.Pattern.Program
import Predefined.Text.Pieces

namespace Predefined.Pattern

/-! ## Places -/

namespace Look

/-- The characters of words. -/
def wordRanges : Array (Nat × Nat) := Property.word.ranges.toArray

def asciiWordRanges : Array (Nat × Nat) := NamedClass.word.set.ranges.toArray

/-- Whether a character next to a place belongs to a word. -/
def isWord (unicode : Bool) (c : Option Char) : Bool :=
  c.any fun c => CharSet.inRanges (if unicode then wordRanges else asciiWordRanges) c.toNat

/-- Whether a place is one that is looked for, by the characters before and after it. -/
def holds (l : Look) (before after : Option Char) : Bool :=
  match l with
  | textStart => before.isNone
  | textEnd => after.isNone
  | lineStart false => before.isNone || before = some '\n'
  | lineEnd false => after.isNone || after = some '\n'
  | lineStart true =>
    before.isNone || before = some '\n' || (before = some '\r' && after ≠ some '\n')
  | lineEnd true =>
    after.isNone || after = some '\r' || (after = some '\n' && before ≠ some '\r')
  | word unicode e =>
    let b := isWord unicode before
    let a := isWord unicode after
    match e with
    | .edge => b != a
    | .noEdge => b == a
    | .wordStart => !b && a
    | .wordEnd => b && !a
    | .halfStart => !b
    | .halfEnd => !a

end Look

/-! ## Threads -/

/-- A thread: the instruction that is next, and where its match starts. -/
structure Thread where
  next : Nat
  start : Nat

/-- The threads at a place. Each instruction is marked with the last place where a thread came to
it. -/
structure Front where
  marks : Array Nat
  threads : Array Thread

namespace Program

/-- Follows an instruction to all that read or accept, preferred ones first. Instructions that have
the mark are left out. The bound on the steps in a row is above the number of instructions, and
never reached. -/
def follow (code : Code) (before after : Option Char) (mark start : Nat) :
    (bound next : Nat) → Front → Front
  | 0, _, f => f
  | bound + 1, next, ⟨marks, threads⟩ =>
    if marks[next]? = some mark then ⟨marks, threads⟩
    else
      let marks := marks.setIfInBounds next mark
      match code[next]? with
      | some (.choose first second) =>
        follow code before after mark start bound second
          (follow code before after mark start bound first ⟨marks, threads⟩)
      | some (.look l next) =>
        if l.holds before after then follow code before after mark start bound next ⟨marks, threads⟩
        else ⟨marks, threads⟩
      | some _ => ⟨marks, threads.push ⟨next, start⟩⟩
      | none => ⟨marks, threads⟩

/-- Lets threads read a character, or none at the end of the text. The start of the first one that
accepts ends the matter for those behind it. -/
def step (code : Code) (c : Option Char) (after : Option Char) (mark : Nat) :
    List Thread → Front → Option Nat × Front
  | [], f => (none, f)
  | t :: ts, f =>
    match code[t.next]?, c with
    | some .accept, _ => (some t.start, f)
    | some (.read ranges next), some d =>
      if CharSet.inRanges ranges d.toNat then
        step code c after mark ts (follow code c after mark t.start (code.size + 1) next f)
      else step code c after mark ts f
    | _, _ => step code c after mark ts f

/-- Runs threads from a place on. The match that is found last is preferred. New threads start as
long as there is none. -/
def run (p : Program) (before : Option Char) (position : Nat) (found : Option Text.Span) :
    List Char → Front → Option Text.Span
  | rest, f =>
    let after := rest.head?
    let f := if found.isNone then
        follow p.code before after (position + 1) position (p.code.size + 1) p.start f
      else f
    if f.threads.isEmpty && found.isSome then found
    else
      match rest with
      | [] =>
        match step p.code none none 0 f.threads.toList ⟨#[], #[]⟩ with
        | (some start, _) => some ⟨start, position⟩
        | (none, _) => found
      | c :: rest =>
        let (start, f) :=
          step p.code (some c) rest.head? (position + 2) f.threads.toList ⟨f.marks, #[]⟩
        let found := match start with
          | some start => some ⟨start, position⟩
          | none => found
        run p (some c) (position + 1) found rest f

/-- The first match from a place on, behind the character `before`. -/
def find? (p : Program) (before : Option Char) (position : Nat) (rest : List Char) :
    Option Text.Span :=
  run p before position none rest ⟨Array.replicate p.code.size 0, #[]⟩

/-! ## All matches -/

/-- Goes on by a number of characters. Gives the last one of them, and what is behind it. -/
def advance (before : Option Char) : (count : Nat) → List Char → Option Char × List Char
  | count + 1, c :: rest => advance (some c) count rest
  | _, rest => (before, rest)

/-- The matches from a place on, each behind the one before. An empty match right behind another
match is passed over. Each match takes two steps for a character at most, so the bound is never
reached. -/
def spansFrom (p : Program) (before : Option Char) (position : Nat) (behindMatch : Bool) :
    (bound : Nat) → List Char → List Text.Span
  | 0, _ => []
  | bound + 1, rest =>
    match p.find? before position rest with
    | none => []
    | some m =>
      if behindMatch && m.stop = position then
        match rest with
        | [] => []
        | c :: rest => spansFrom p (some c) (position + 1) false bound rest
      else
        let (before, rest) := advance before (m.stop - position) rest
        m :: spansFrom p before m.stop true bound rest

def spans (p : Program) (s : List Char) : List Text.Span :=
  spansFrom p none 0 false (2 * s.length + 2) s

end Program

end Predefined.Pattern
