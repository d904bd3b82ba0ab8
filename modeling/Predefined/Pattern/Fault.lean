-- Why a pattern is refused.
namespace Predefined.Pattern

inductive Fault where
  | openGroup
  | strayParenthesis
  | openClass
  | openCount
  /-- Something to look ahead or behind for. -/
  | lookAround
  | groupName
  | repeatedGroupName
  | flags
  /-- A repetition with nothing before it. -/
  | missingOperand
  | count
  | escape
  /-- An escape that names no character. -/
  | codePoint
  /-- A range that ends before it starts, or that has an end that is no character. -/
  | classRange
  /-- Something in a bracketed class that matches no character. -/
  | classMember
  | unknownProperty
  /-- Something that could match a part of a character, as Unicode is off. -/
  | needsUnicode
  | tooDeep
  | tooLarge
deriving DecidableEq

end Predefined.Pattern
