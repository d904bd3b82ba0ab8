-- The character sets in which text can be turned into bytes, and the names they go by.
import Predefined.Encoding.Utf8

namespace Predefined

inductive Charset where
  | utf8
  | usAscii
  | latin1
  /-- Big-endian, after a byte order mark. -/
  | utf16
  | utf16Be
  | utf16Le
deriving DecidableEq

namespace Charset

/-- The name in log records. -/
def name : Charset → String
  | utf8 => "Utf8"
  | usAscii => "UsAscii"
  | latin1 => "Latin1"
  | utf16 => "Utf16"
  | utf16Be => "Utf16Be"
  | utf16Le => "Utf16Le"

/-- The names that expressions may use, in lower case. -/
def labels : Charset → List String
  | utf8 => ["utf-8", "utf8"]
  | usAscii => ["us-ascii", "ascii"]
  | latin1 => ["iso-8859-1", "iso8859-1", "iso_8859_1", "latin1"]
  | utf16 => ["utf-16", "utf16"]
  | utf16Be => ["utf-16be", "utf16be"]
  | utf16Le => ["utf-16le", "utf16le"]

def all : List Charset :=
  [utf8, usAscii, latin1, utf16, utf16Be, utf16Le]

/-- The character set of a label in any case. -/
def ofLabel? (label : String) : Option Charset :=
  let lower := String.ofList (label.toList.map Char.toLower)
  all.find? (·.labels.contains lower)

/-- Whether a text has the form of a character set name, known or not: a letter or digit of ASCII,
then letters, digits and the marks `-`, `+`, `:`, `_` and `.`. -/
def isLegalName (name : String) : Bool :=
  match name.toList with
  | [] => false
  | c :: rest =>
    c.isAlphanum && rest.all fun c =>
      c.isAlphanum || c == '-' || c == '+' || c == ':' || c == '_' || c == '.'

/-! ## Bytes -/

/-- One byte a character, and a question mark for those past the last one of the set. -/
def encodeByte (last : Nat) (c : Char) : UInt8 :=
  if c.toNat ≤ last then UInt8.ofNat c.toNat else 63

/-- The 16-bit units of a character: itself, or a pair of surrogates. -/
def units (c : Char) : List Nat :=
  let n := c.toNat
  if n < 0x10000 then [n]
  else [0xD800 + (n - 0x10000) / 0x400, 0xDC00 + (n - 0x10000) % 0x400]

def bigEndian (unit : Nat) : List UInt8 :=
  [UInt8.ofNat (unit / 256), UInt8.ofNat (unit % 256)]

def littleEndian (unit : Nat) : List UInt8 :=
  [UInt8.ofNat (unit % 256), UInt8.ofNat (unit / 256)]

/-- The bytes of a text in a character set. -/
def encode (charset : Charset) (s : List Char) : List UInt8 :=
  match charset with
  | utf8 => Utf8.encode s
  | usAscii => s.map (encodeByte 0x7F)
  | latin1 => s.map (encodeByte 0xFF)
  | utf16 => 0xFE :: 0xFF :: (s.flatMap units).flatMap bigEndian
  | utf16Be => (s.flatMap units).flatMap bigEndian
  | utf16Le => (s.flatMap units).flatMap littleEndian

end Charset

end Predefined
