/-! # Why a pattern is refused -/

namespace KotlinMetadata

/-- Why a text is no pattern. -/
inductive PatternError where
  /-- A group is opened and not closed. -/
  | groupUnclosed
  /-- A group is closed and was not opened. -/
  | groupUnopened
  /-- A group looks ahead or behind. -/
  | lookAround
  /-- The name of a group is missing, malformed or taken. -/
  | captureName
  /-- Flags are unknown, repeated or unfinished. -/
  | flags
  /-- There is nothing to repeat. -/
  | operandMissing
  /-- The bounds of a repetition are missing, malformed or out of order. -/
  | repetitionBounds
  /-- A bracket is opened and not closed. -/
  | classUnclosed
  /-- An item between brackets is not a character or class. -/
  | classItem
  /-- The ends of a range are no characters or out of order. -/
  | classRange
  /-- An escape is unknown or unfinished. -/
  | escape
  /-- The digits of a character are malformed or name none. -/
  | codePoint
  /-- No property has this name and value. -/
  | property
  /-- A class or character is only available with Unicode switched on. -/
  | unicodeOff
  /-- The pattern could match a stretch that cuts a character in two. -/
  | notText
  /-- The pattern is nested too deeply. -/
  | tooDeep
  /-- The pattern is too large. -/
  | tooLarge
deriving DecidableEq, Repr

end KotlinMetadata
