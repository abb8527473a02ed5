import Postal.Unicode.Binary
import Postal.Unicode.Category
import Postal.Unicode.Revision

namespace Postal.Unicode

def isWhitespace (c : Char) : Bool :=
  let code := c.toNat
  (9 ≤ code && code ≤ 13) || code == 0x20 || code == 0x85 || code == 0xA0 || code == 0x1680 ||
    (0x2000 ≤ code && code ≤ 0x200A) || code == 0x2028 || code == 0x2029 || code == 0x202F ||
    code == 0x205F || code == 0x3000

def alphabeticTable : RangeTable :=
  (tableNamed binaryProperties "Alphabetic").symmetricDifference alphabeticChanges

def casedTable : RangeTable :=
  cased.symmetricDifference casedChanges

def caseIgnorableTable : RangeTable :=
  caseIgnorable.symmetricDifference caseIgnorableChanges

def numberTable : RangeTable :=
  (tableNamed generalCategories "Number").symmetricDifference numberChanges

def markTable : RangeTable :=
  (tableNamed generalCategories "Mark").symmetricDifference markChanges

def decimalTable : RangeTable := decimalNumber

def whitespaceTable : RangeTable := tableNamed binaryProperties "White_Space"

def wordTable : RangeTable :=
  .unionOf [tableNamed binaryProperties "Alphabetic", tableNamed generalCategories "Mark",
    decimalTable, tableNamed generalCategories "Connector_Punctuation",
    tableNamed binaryProperties "Join_Control"]

def isAlphabetic (c : Char) : Bool :=
  if c.toNat < 0x80 then c.isAlpha else alphabeticTable.contains c.toNat

def isNumeric (c : Char) : Bool :=
  if c.toNat < 0x80 then c.isDigit else numberTable.contains c.toNat

def isAlphanumeric (c : Char) : Bool :=
  isAlphabetic c || isNumeric c

def isDecimal (c : Char) : Bool :=
  if c.toNat < 0x80 then c.isDigit else decimalTable.contains c.toNat

def isMark (c : Char) : Bool :=
  if c.toNat < 0x80 then false else markTable.contains c.toNat

def isWordCharacter (c : Char) : Bool :=
  if c.toNat < 0x80 then c.isAlphanum || c == '_' else wordTable.contains c.toNat

def isCased (c : Char) : Bool :=
  if c.toNat < 0x80 then c.isAlpha else casedTable.contains c.toNat

def isCaseIgnorable (c : Char) : Bool :=
  if c.toNat < 0x80 then [0x27, 0x2E, 0x3A, 0x5E, 0x60].contains c.toNat
  else caseIgnorableTable.contains c.toNat

end Postal.Unicode
