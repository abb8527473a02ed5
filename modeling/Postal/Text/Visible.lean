import Postal.Json.Printer
import Postal.Unicode.Binary
import Postal.Unicode.Category
import Postal.Unicode.Revision

namespace Postal

open Unicode

def otherTable : RangeTable :=
  (tableNamed generalCategories "Other").symmetricDifference otherChanges

def separatorTable : RangeTable := tableNamed generalCategories "Separator"

def graphemeExtendTable : RangeTable :=
  (tableNamed binaryProperties "Grapheme_Extend").symmetricDifference graphemeExtendChanges

def isVisible (c : Char) : Bool :=
  if c.toNat < 0x80 then 0x20 ≤ c.toNat && c.toNat < 0x7F
  else ! otherTable.contains c.toNat && ! separatorTable.contains c.toNat &&
    ! graphemeExtendTable.contains c.toNat

def hexText (value : Nat) : List Char :=
  Nat.toDigits 16 value

def visibleCharacter (c : Char) : List Char :=
  if c == '\"' then ['\\', '\"']
  else if c == '\\' then ['\\', '\\']
  else if c == '\n' then ['\\', 'n']
  else if c == '\r' then ['\\', 'r']
  else if c == '\t' then ['\\', 't']
  else if c.toNat == 0 then ['\\', '0']
  else if isVisible c then [c]
  else '\\' :: 'u' :: '{' :: hexText c.toNat ++ ['}']

def visibleText (text : String) : String :=
  String.ofList ('\"' :: text.toList.flatMap visibleCharacter ++ ['\"'])

end Postal
