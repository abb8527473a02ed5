import Postal.Pattern.Node

namespace Postal

structure PatternFlags where
  ignoreCase : Bool
  multiLine : Bool
  dotMatchesBreak : Bool
  preferShort : Bool
  unicode : Bool
  anyBreak : Bool
  ignoreSpace : Bool
deriving DecidableEq, Repr

def PatternFlags.lenient : PatternFlags where
  ignoreCase := true
  multiLine := true
  dotMatchesBreak := false
  preferShort := false
  unicode := true
  anyBreak := false
  ignoreSpace := false

def PatternFlags.change? (flags : PatternFlags) (letter : Char) (value : Bool) :
    Option PatternFlags :=
  if letter == 'i' then some { flags with ignoreCase := value }
  else if letter == 'm' then some { flags with multiLine := value }
  else if letter == 's' then some { flags with dotMatchesBreak := value }
  else if letter == 'U' then some { flags with preferShort := value }
  else if letter == 'u' then some { flags with unicode := value }
  else if letter == 'R' then some { flags with anyBreak := value }
  else if letter == 'x' then some { flags with ignoreSpace := value }
  else none

inductive PatternError where
  | groupUnclosed
  | groupUnopened
  | groupNameInvalid
  | groupNameRepeated
  | flagUnknown
  | flagRepeated
  | flagsUnclosed
  | lookAround
  | backReference
  | repetitionMissing
  | repetitionUnclosed
  | repetitionReversed
  | numberInvalid
  | classUnclosed
  | classRangeReversed
  | classItemInvalid
  | escapeUnclosed
  | escapeUnknown
  | codePointInvalid
  | boundaryUnknown
  | propertyUnknown
  | unicodeDisabled
  | notCharacters
  | nestedTooDeep
  | tooLarge
deriving DecidableEq, Repr

end Postal
