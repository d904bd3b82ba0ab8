-- JSON values. Integers and doubles are kept apart: they print differently and are never equal.
-- Objects are tables in increasing order of their keys.
import Predefined.Double.Shortest
import Predefined.Json.Printer
import Predefined.Table

namespace Predefined

namespace Json

/-- A number: an integer of at most 64 bits, with a sign or without one, or a finite double. -/
inductive Number where
  | integer (value : Int) (inRange : -0x8000000000000000 ≤ value ∧ value < 0x10000000000000000)
  | double (value : Double) (isFinite : value.isFinite = true)
deriving DecidableEq

end Json

inductive Json where
  | null
  | bool (b : Bool)
  | number (n : Json.Number)
  | string (s : String)
  | array (elements : List Json)
  | object (members : List (String × Json))

namespace Json

/-! ## Equality -/

def Number.equals : Number → Number → Bool
  | integer a _, integer b _ => a = b
  | double a _, double b _ => a.equals b
  | _, _ => false

mutual

/-- Equality of values, with numbers compared by `Number.equals`. -/
def equals : Json → Json → Bool
  | null, null => true
  | bool a, bool b => a = b
  | number a, number b => a.equals b
  | string a, string b => a = b
  | array as, array bs => equalElements as bs
  | object as, object bs => equalMembers as bs
  | _, _ => false

def equalElements : List Json → List Json → Bool
  | [], [] => true
  | a :: as, b :: bs => equals a b && equalElements as bs
  | _, _ => false

def equalMembers : List (String × Json) → List (String × Json) → Bool
  | [], [] => true
  | (k, a) :: as, (l, b) :: bs => k = l && equals a b && equalMembers as bs
  | _, _ => false

end

/-! ## Numbers as written -/

/-- An integer in decimal. -/
def Numeral.ofInt (i : Int) : Numeral where
  negative := i < 0
  whole := Decimal.digits i.natAbs
  fraction := []
  exponent := none

/-- The digits of a double around the decimal point. The leading digit stands for `10 ^ place`.
From 10^-5 up to, and without, 10^16 the point stands in its place and at least one digit follows
it; outside, one digit stands before the point, and the exponent follows with its sign. -/
def Numeral.ofScientific (negative : Bool) (d : Scientific) : Numeral :=
  let ds := Decimal.digits d.digits
  let place := ds.length + d.exponent - 1
  if -5 ≤ place ∧ place ≤ 15 then
    if 0 ≤ d.exponent then
      ⟨negative, ds ++ List.replicate d.exponent.toNat Digit.zero, [Digit.zero], none⟩
    else if 0 ≤ place then
      let whole := (place + 1).toNat
      ⟨negative, ds.take whole, ds.drop whole, none⟩
    else ⟨negative, [Digit.zero], List.replicate (-1 - place).toNat Digit.zero ++ ds, none⟩
  else
    ⟨negative, ds.take 1, ds.drop 1, some (place < 0, Decimal.digits place.natAbs)⟩

/-- A finite double in the fewest digits that read back, a tie to the even one. -/
def Numeral.ofDouble : Double → Numeral
  | .finite negative code _ =>
    if code = 0 then ⟨negative, [Digit.zero], [Digit.zero], none⟩
    else ofScientific negative (Double.shortest .toEven code)
  | _ => ⟨false, [Digit.zero], [Digit.zero], none⟩

def Number.numeral : Number → Numeral
  | integer i _ => Numeral.ofInt i
  | double d _ => Numeral.ofDouble d

/-! ## Values as documents -/

mutual

def toTree : Json → Tree
  | null => .null
  | bool b => .bool b
  | number n => .number n.numeral
  | string s => .text s
  | array elements => .array (elementTrees elements)
  | object members => .object (memberTrees members)

def elementTrees : List Json → List Tree
  | [] => []
  | j :: js => toTree j :: elementTrees js

def memberTrees : List (String × Json) → List (Quoted × Tree)
  | [] => []
  | (key, j) :: ms => (some key, toTree j) :: memberTrees ms

end

/-- The compact text. -/
def compact (j : Json) : String :=
  j.toTree.compact

/-- The indented text. -/
def pretty (j : Json) : String :=
  j.toTree.pretty

end Json

end Predefined
