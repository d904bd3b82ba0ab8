-- Where text is cut into the characters that a reader sees, into words and into sentences: the
-- classes of characters that decide it. Most are made of categories and other properties.
import Predefined.Unicode.Property
import Predefined.Unicode.Script

namespace Predefined

open CharSet

/-! ## Between the characters that a reader sees -/

/-- The classes for the places between user-perceived characters. -/
inductive GraphemeBreak where
  | carriageReturn
  | lineFeed
  | control
  | extend
  | joiner
  | regionalIndicator
  | prepend
  | spacingMark
  | leading
  | vowel
  | trailing
  | leadingVowel
  | leadingVowelTrailing
deriving DecidableEq

namespace GraphemeBreak

def all : List GraphemeBreak :=
  [carriageReturn, lineFeed, control, extend, joiner, regionalIndicator, prepend, spacingMark,
    leading, vowel, trailing, leadingVowel, leadingVowelTrailing]

def names : GraphemeBreak → List String
  | carriageReturn => ["cr"]
  | lineFeed => ["lf"]
  | control => ["control", "cn"]
  | extend => ["extend", "ex"]
  | joiner => ["zwj"]
  | regionalIndicator => ["regionalindicator", "ri"]
  | prepend => ["prepend", "pp"]
  | spacingMark => ["spacingmark", "sm"]
  | leading => ["l"]
  | vowel => ["v"]
  | trailing => ["t"]
  | leadingVowel => ["lv"]
  | leadingVowelTrailing => ["lvt"]

/-- The marks that extend the character before them. -/
def extending : CharSet :=
  union Property.graphemeExtend Property.emojiModifier

/-- The syllables of Hangul that have no trailing consonant: every 28th one. -/
def openSyllables : CharSet :=
  ofRanges ((List.range 399).map fun i => (0xAC00 + 28 * i, 0xAC00 + 28 * i))

def set : GraphemeBreak → CharSet
  | carriageReturn => single '\r'
  | lineFeed => single '\n'
  | control =>
    diff (union (Category.sets [.zl, .zp, .cc, .cf])
        (inter Property.defaultIgnorableCodePoint Category.unassigned))
      (unions [ofChars ['\r', '\n', '\u200D'], Property.prependedConcatenationMark, extending])
  | extend => extending
  | joiner => single '\u200D'
  | regionalIndicator => Property.regionalIndicator
  | prepend =>
    union Property.prependedConcatenationMark
      (ofTable ["D4E 111C2-111C3 113D1 1193F 11941 11A3A 11A84-11A89 11D46 11F02"])
  | spacingMark =>
    diff (union Category.mc.set (ofTable ["E33 EB3"]))
      (union Property.graphemeExtend (ofTable
        ["102B-102C 1038 1062-1064 1067-106D 1083 1087-108C 108F 109A-109C 1A61 1A63-1A64 AA7B",
         "AA7D 11720-11721"]))
  | leading => ofTable ["1100-115F A960-A97C"]
  | vowel => ofTable ["1160-11A7 D7B0-D7C6 16D63 16D67-16D6A"]
  | trailing => ofTable ["11A8-11FF D7CB-D7FB"]
  | leadingVowel => openSyllables
  | leadingVowelTrailing => diff (range 0xAC00 0xD7A3) openSyllables

end GraphemeBreak

/-! ## Between words -/

/-- The classes for the ends of words. -/
inductive WordBreak where
  | carriageReturn
  | lineFeed
  | newline
  | extend
  | joiner
  | format
  | regionalIndicator
  | katakana
  | hebrewLetter
  | letter
  | singleQuote
  | doubleQuote
  | midNumberOrLetter
  | midLetter
  | midNumber
  | numeric
  | connector
  | space
deriving DecidableEq

namespace WordBreak

def all : List WordBreak :=
  [carriageReturn, lineFeed, newline, extend, joiner, format, regionalIndicator, katakana,
    hebrewLetter, letter, singleQuote, doubleQuote, midNumberOrLetter, midLetter, midNumber,
    numeric, connector, space]

def names : WordBreak → List String
  | carriageReturn => ["cr"]
  | lineFeed => ["lf"]
  | newline => ["newline", "nl"]
  | extend => ["extend"]
  | joiner => ["zwj"]
  | format => ["format", "fo"]
  | regionalIndicator => ["regionalindicator", "ri"]
  | katakana => ["katakana", "ka"]
  | hebrewLetter => ["hebrewletter", "hl"]
  | letter => ["aletter", "le"]
  | singleQuote => ["singlequote", "sq"]
  | doubleQuote => ["doublequote", "dq"]
  | midNumberOrLetter => ["midnumlet", "mb"]
  | midLetter => ["midletter", "ml"]
  | midNumber => ["midnum", "mn"]
  | numeric => ["numeric", "nu"]
  | connector => ["extendnumlet", "ex"]
  | space => ["wsegspace"]

def extending : CharSet :=
  unions [Property.graphemeExtend, Category.mc.set, Property.emojiModifier]

/-- The characters of a script by its name. -/
def ofScript (name : String) : CharSet :=
  (Script.set? name).getD empty

def katakanaSigns : CharSet :=
  ofTable ["3031-3035 309B-309C 30A0 30FC FF70"]

def katakanaLetters : CharSet :=
  union (ofScript "katakana") katakanaSigns

def hebrewLetters : CharSet :=
  inter (ofScript "hebrew") Category.lo.set

/-- Signs that words are spelled with. -/
def letterSigns : CharSet :=
  ofTable
    ["2C2-2C5 2D2-2D7 2DE-2DF 2E5-2EB 2ED 2EF-2FF 55A-55C 55E 58A 5F3 70F A708-A716 A720-A721",
     "A789-A78A AB5B"]

/-- The letters of scripts that put no spaces between words. -/
def unspaced : CharSet :=
  ofTable
    ["E01-E30 E32-E33 E40-E46 E81-E82 E84 E86-E8A E8C-EA3 EA5 EA7-EB0 EB2-EB3 EBD EC0-EC4 EC6",
     "EDC-EDF 1000-102A 103F 1050-1055 105A-105D 1061 1065-1066 106E-1070 1075-1081 108E",
     "1780-17B3 17D7 17DC 1950-196D 1970-1974 1980-19AB 19B0-19C9 1A20-1A54 1AA7 A9E0-A9E4",
     "A9E6-A9EF A9FA-A9FE AA60-AA76 AA7A AA7E-AAAF AAB1 AAB5-AAB6 AAB9-AABD AAC0 AAC2 AADB-AADD",
     "11700-1171A 11740-11746"]

def set : WordBreak → CharSet
  | carriageReturn => single '\r'
  | lineFeed => single '\n'
  | newline => ofTable ["B-C 85 2028-2029"]
  | extend => extending
  | joiner => single '\u200D'
  | format =>
    diff Category.cf.set
      (unions [ofChars ['\u200B', '\u200D'], Property.prependedConcatenationMark, extending])
  | regionalIndicator => Property.regionalIndicator
  | katakana => katakanaLetters
  | hebrewLetter => hebrewLetters
  | letter =>
    union letterSigns
      (diff Property.alphabetic
        (unions [Property.ideographic, katakanaLetters, hebrewLetters, extending,
          ofScript "hiragana", unspaced]))
  | singleQuote => single '\u0027'
  | doubleQuote => single '\u0022'
  | midNumberOrLetter => ofTable ["2E 2018-2019 2024 FE52 FF07 FF0E"]
  | midLetter => ofTable ["3A B7 387 55F 5F4 2027 FE13 FE55 FF1A"]
  | midNumber => ofTable ["2C 3B 37E 589 60C-60D 66C 7F8 2044 FE50 FE54 FF0C FF1B"]
  | numeric =>
    union Category.nd.set (ofTable ["600-605 66B 6DD 890-891 8E2 19DA 110BD 110CD"])
  | connector => union Category.pc.set (single '\u202F')
  | space => ofTable ["20 1680 2000-2006 2008-200A 205F 3000"]

end WordBreak

/-! ## Between sentences -/

/-- The classes for the ends of sentences. -/
inductive SentenceBreak where
  | carriageReturn
  | lineFeed
  | extend
  | separator
  | format
  | space
  | lower
  | upper
  | letter
  | numeric
  | stop
  | continuing
  | terminal
  | close
deriving DecidableEq

namespace SentenceBreak

def all : List SentenceBreak :=
  [carriageReturn, lineFeed, extend, separator, format, space, lower, upper, letter, numeric, stop,
    continuing, terminal, close]

def names : SentenceBreak → List String
  | carriageReturn => ["cr"]
  | lineFeed => ["lf"]
  | extend => ["extend", "ex"]
  | separator => ["sep", "se"]
  | format => ["format", "fo"]
  | space => ["sp"]
  | lower => ["lower", "lo"]
  | upper => ["upper", "up"]
  | letter => ["oletter", "le"]
  | numeric => ["numeric", "nu"]
  | stop => ["aterm", "at"]
  | continuing => ["scontinue", "sc"]
  | terminal => ["sterm", "st"]
  | close => ["close", "cl"]

def extending : CharSet :=
  unions [Property.graphemeExtend, Category.mc.set, single '\u200D']

def separators : CharSet := ofChars ['\u0085', '\u2028', '\u2029']

/-- Small letters. Those of Georgian begin sentences too, and are not told from the capitals. -/
def lowerLetters : CharSet :=
  diff Property.lowercase (union Property.graphemeExtend (ofTable ["10D0-10FA 10FD-10FF"]))

def upperLetters : CharSet :=
  diff (union Category.lt.set Property.uppercase) (ofTable ["1C90-1CBA 1CBD-1CBF"])

def stops : CharSet := ofTable ["2E 2024 FE52 FF0E"]

def set : SentenceBreak → CharSet
  | carriageReturn => single '\r'
  | lineFeed => single '\n'
  | extend => extending
  | separator => separators
  | format =>
    union (single '\u070F')
      (diff Category.cf.set (union Property.prependedConcatenationMark extending))
  | space => diff Property.whiteSpace (union separators (ofChars ['\r', '\n']))
  | lower => lowerLetters
  | upper => upperLetters
  | letter =>
    union (single '\u05F3')
      (diff Property.alphabetic (unions [lowerLetters, upperLetters, extending]))
  | numeric =>
    union (ofTable ["66B-66C 19DA"])
      (diff (union Category.nd.set Property.prependedConcatenationMark) (single '\u070F'))
  | stop => stops
  | continuing =>
    ofTable
      ["2C-2D 3A-3B 37E 55D 60C-60D 7F8 1802 1808 2013-2014 3001 FE10-FE11 FE13-FE14 FE31-FE32",
       "FE50-FE51 FE54-FE55 FE58 FE63 FF0C-FF0D FF1A-FF1B FF64"]
  | terminal => diff Property.sentenceTerminal stops
  | close =>
    diff
      (unions [Category.sets [.ps, .pe, .pi, .pf], Property.quotationMark,
        ofTable ["275B-2760 2E00-2E01 2E06-2E08 2E0B 1F676-1F678"]])
      (ofTable ["FF02 FF07"])

end SentenceBreak

/-! ## By name

Names are in lower case, without spaces, dashes and underscores. -/

def GraphemeBreak.set? (name : String) : Option CharSet :=
  (GraphemeBreak.all.find? (·.names.contains name)).map (·.set)

def WordBreak.set? (name : String) : Option CharSet :=
  (WordBreak.all.find? (·.names.contains name)).map (·.set)

def SentenceBreak.set? (name : String) : Option CharSet :=
  (SentenceBreak.all.find? (·.names.contains name)).map (·.set)

end Predefined
