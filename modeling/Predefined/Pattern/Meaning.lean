-- Which characters a class stands for. With Unicode on, classes hold characters of all scripts;
-- with Unicode off they may hold ASCII characters only.
import Predefined.Pattern.Class
import Predefined.Pattern.Flag
import Predefined.Unicode.Age
import Predefined.Unicode.Break
import Predefined.Unicode.Case

namespace Predefined.Pattern

/-! ## Properties -/

namespace PropertyQuery

/-- A name as the tables have it: in lower case, and without blanks, dashes, underscores and a
leading "is". The name "isc" keeps its first letters, as it is not another name of the category
"c". -/
def normalize (s : String) : String :=
  let lower := s.toList.map Char.toLower
  let (hasIs, body) := match lower with
    | 'i' :: 's' :: rest => (true, rest)
    | body => (false, body)
  let kept := body.filter fun c => c.toNat < 128 && c ≠ ' ' && c ≠ '_' && c ≠ '-'
  if hasIs && kept = ['c'] then "isc" else String.ofList kept

/-- The names that both a property and a category have. They stand for the category. -/
def categoryFirst : List String := ["cf", "sc", "lc"]

/-- The characters with a property, of a category or of a script. -/
def named? (name : String) : Option CharSet :=
  let property := if categoryFirst.contains name then none else Property.ofName? name
  (property.or (Category.ofName? name)).or (Script.set? name)

def set? : PropertyQuery → Option CharSet
  | name s => named? (normalize s)
  | value key s =>
    let value := normalize s
    match normalize key with
    | "age" => Age.set? value
    | "gc" | "generalcategory" => Category.ofName? value
    | "gcb" | "graphemeclusterbreak" => GraphemeBreak.set? value
    | "sb" | "sentencebreak" => SentenceBreak.set? value
    | "sc" | "script" => Script.set? value
    | "scx" | "scriptextensions" => Script.extended? value
    | "wb" | "wordbreak" => WordBreak.set? value
    | _ => none

end PropertyQuery

/-! ## Classes with a letter or a name -/

def NamedClass.set : NamedClass → CharSet
  | alnum => .ofRanges [(0x30, 0x39), (0x41, 0x5A), (0x61, 0x7A)]
  | alpha => .ofRanges [(0x41, 0x5A), (0x61, 0x7A)]
  | ascii => .range 0 0x7F
  | blank => .ofRanges [(0x09, 0x09), (0x20, 0x20)]
  | cntrl => .ofRanges [(0, 0x1F), (0x7F, 0x7F)]
  | digit => .range 0x30 0x39
  | graph => .range 0x21 0x7E
  | lower => .range 0x61 0x7A
  | print => .range 0x20 0x7E
  | punct => .ofRanges [(0x21, 0x2F), (0x3A, 0x40), (0x5B, 0x60), (0x7B, 0x7E)]
  | space => .ofRanges [(0x09, 0x0D), (0x20, 0x20)]
  | upper => .range 0x41 0x5A
  | word => .ofRanges [(0x30, 0x39), (0x41, 0x5A), (0x5F, 0x5F), (0x61, 0x7A)]
  | xdigit => .ofRanges [(0x30, 0x39), (0x41, 0x46), (0x61, 0x66)]

def LetterClass.asciiSet : LetterClass → CharSet
  | digit => NamedClass.digit.set
  | space => NamedClass.space.set
  | word => NamedClass.word.set

def LetterClass.unicodeSet : LetterClass → CharSet
  | digit => Category.nd.set
  | space => Property.whiteSpace
  | word => Property.word

/-! ## Under flags -/

namespace Flags

/-- Adds to a set of ASCII characters the same letters in the other case. -/
def foldAscii (s : CharSet) : CharSet :=
  let letters := (List.range 26).filter fun i => s.contains (0x41 + i) || s.contains (0x61 + i)
  CharSet.ofRanges (s.ranges ++ letters.flatMap fun i =>
    [(0x41 + i, 0x41 + i), (0x61 + i, 0x61 + i)])

/-- Adds what differs in case alone, where case is ignored. -/
def fold (fs : Flags) (s : CharSet) : CharSet :=
  if fs.has .ignoreCase then if fs.has .unicode then Unicode.foldSet s else foldAscii s else s

def isAscii (s : CharSet) : Bool :=
  s.ranges.all fun (_, high) => high < 128

/-- Refuses other than ASCII characters where Unicode is off. -/
def check (fs : Flags) (s : CharSet) : Except Fault CharSet :=
  if fs.has .unicode || isAscii s then .ok s else .error .needsUnicode

/-- A set or what is outside of it. Case is folded before. -/
def select (fs : Flags) (negated : Bool) (s : CharSet) : Except Fault CharSet :=
  let s := fs.fold s
  fs.check (if negated then s.compl else s)

def letterSet (fs : Flags) (c : LetterClass) (negated : Bool) : Except Fault CharSet :=
  let s := if fs.has .unicode then c.unicodeSet else c.asciiSet
  fs.check (if negated then s.compl else s)

def propertySet (fs : Flags) (q : PropertyQuery) (negated : Bool) : Except Fault CharSet :=
  if fs.has .unicode then
    match q.set? with
    | some s => fs.select negated s
    | none => .error .unknownProperty
  else .error .needsUnicode

/-- The characters that a dot matches. -/
def dotSet (fs : Flags) : Except Fault CharSet :=
  if !fs.has .unicode then .error .needsUnicode
  else if fs.has .dotAll then .ok .all
  else if fs.has .carriageReturn then .ok (CharSet.ofChars ['\n', '\r']).compl
  else .ok (CharSet.single '\n').compl

end Flags

def SetOperation.apply : SetOperation → CharSet → CharSet → CharSet
  | intersection => CharSet.inter
  | difference => CharSet.diff
  | symmetricDifference => CharSet.symmDiff

/-- The characters in a class. -/
def Class.set (fs : Flags) : Class → Except Fault CharSet
  | empty => .ok .empty
  | range low high => fs.check (.range low.toNat high.toNat)
  | letter c negated => fs.letterSet c negated
  | named c negated => fs.select negated c.set
  | property q negated => fs.propertySet q negated
  | bracketed negated c => do fs.select negated (← c.set fs)
  | union c rest => return (← c.set fs).union (← rest.set fs)
  | operation op c d => return op.apply (fs.fold (← c.set fs)) (fs.fold (← d.set fs))

end Predefined.Pattern
