-- Letters and numbers as text has them. They follow a newer edition of Unicode than the properties
-- that patterns ask for, so each set is the older one with what has changed since.
import Predefined.Unicode.Property

namespace Predefined.Letter

open CharSet

def alphabetic : CharSet :=
  union Property.alphabetic (ofTable
    ["88F C5C CDC A7CE-A7CF A7D2 A7D4 A7F1 10940-10959 10EC5-10EC7 10EFA-10EFB 11B60-11B67",
     "11DB0-11DDB 16EA0-16EB8 16EBB-16ED3 16FF2-16FF6 187F8-187FF 18D09-18D1E 18D80-18DF2",
     "1E6C0-1E6DE 1E6E0-1E6F5 1E6FE-1E6FF 2B73A-2B73F 2CEA2-2CEAD 323B0-33479"])

def numeric : CharSet :=
  union (Category.sets Category.numbers) (ofTable ["11DE0-11DE9 16FF4-16FF6"])

/-- Letters in upper, lower or title case. One letter of the older edition is none any more. -/
def cased : CharSet :=
  diff
    (union Property.cased (ofTable ["A7CE-A7CF A7D2 A7D4 A7F1 16EA0-16EB8 16EBB-16ED3"]))
    (single '\u0295')

/-- What the case of a letter next to it is not judged by. -/
def caseIgnorable : CharSet :=
  union Property.caseIgnorable (ofTable
    ["1ACF-1ADD 1AE0-1AEB A7F1 10EC5 10EFA-10EFB 11B60 11B62-11B64 11B66 11DD9 16FF2-16FF3 1E6E3",
     "1E6E6 1E6EE-1E6EF 1E6F5 1E6FF"])

end Predefined.Letter
