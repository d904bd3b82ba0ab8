-- Blanks inside a pattern. Where they mean nothing, they are white space, and comments from a hash
-- sign to the end of its line.
import Predefined.Unicode.Property

namespace Predefined.Pattern

def isBlank (c : Char) : Bool :=
  Property.whiteSpace.contains c.toNat

/-- Drops white space and comments. -/
def dropBlanks (inComment : Bool) : List Char → List Char
  | [] => []
  | c :: rest =>
    if inComment then dropBlanks (c ≠ '\n') rest
    else if isBlank c then dropBlanks false rest
    else if c = '#' then dropBlanks true rest
    else c :: rest

/-- Drops what means nothing at the front of a pattern. -/
def skip (ignoreBlanks : Bool) (cs : List Char) : List Char :=
  if ignoreBlanks then dropBlanks false cs else cs

theorem length_dropBlanks_le (inComment : Bool) (cs : List Char) :
    (dropBlanks inComment cs).length ≤ cs.length := by
  induction cs generalizing inComment with
  | nil => simp [dropBlanks]
  | cons c rest ih =>
    rw [dropBlanks]
    split
    · exact Nat.le_succ_of_le (ih _)
    · split
      · exact Nat.le_succ_of_le (ih _)
      · split
        · exact Nat.le_succ_of_le (ih _)
        · exact Nat.le_refl _

/-- What is skipped is not read again. -/
theorem length_skip_le (ignoreBlanks : Bool) (cs : List Char) :
    (skip ignoreBlanks cs).length ≤ cs.length := by
  cases ignoreBlanks
  · exact Nat.le_refl _
  · exact length_dropBlanks_le false cs

/-- The next character that is not blank, to find out what a dash in a class stands for. One hash
sign is passed over, and a pattern of nothing but blanks shows its first one. -/
def peek? (ignoreBlanks : Bool) (cs : List Char) : Option Char :=
  if ignoreBlanks then
    let shown := match cs.dropWhile isBlank with
      | '#' :: rest => rest.dropWhile isBlank
      | rest => rest
    shown.head?.or cs.head?
  else cs.head?

/-- Takes up to `count` characters that are wanted, and drops the blanks behind each. -/
def take (ignoreBlanks : Bool) (wanted : Char → Bool) :
    (count : Nat) → List Char → List Char × List Char
  | count + 1, c :: rest =>
    if wanted c then
      let (taken, rest) := take ignoreBlanks wanted count (skip ignoreBlanks rest)
      (c :: taken, rest)
    else ([], c :: rest)
  | _, rest => ([], rest)

/-- Takes every character that is wanted, up to the first that is not, and drops the blanks behind
each. -/
def takeAll (ignoreBlanks : Bool) (wanted : Char → Bool) : List Char → List Char × List Char
  | [] => ([], [])
  | c :: rest =>
    if wanted c then
      let (taken, rest) := takeAll ignoreBlanks wanted (skip ignoreBlanks rest)
      (c :: taken, rest)
    else ([], c :: rest)
termination_by cs => cs.length
decreasing_by exact Nat.lt_succ_of_le (length_skip_le ignoreBlanks rest)

end Predefined.Pattern
