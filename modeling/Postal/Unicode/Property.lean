import Postal.Unicode.Age
import Postal.Unicode.Binary
import Postal.Unicode.Break
import Postal.Unicode.Category
import Postal.Unicode.Script

namespace Postal.Unicode

inductive Property where
  | category (index : Nat)
  | script (index : Nat)
  | scriptExtension (index : Nat)
  | binary (index : Nat)
  | graphemeBreak (index : Nat)
  | wordBreak (index : Nat)
  | sentenceBreak (index : Nat)
  | newIn (version : Nat)
deriving DecidableEq, Repr

def categoryTables : Array RangeTable := (generalCategories.map (·.table)).toArray
def scriptTables : Array RangeTable := (scripts.map (·.table)).toArray
def scriptExtensionTables : Array RangeTable := (scriptExtensions.map (·.table)).toArray
def binaryTables : Array RangeTable := (binaryProperties.map (·.table)).toArray
def graphemeBreakTables : Array RangeTable := (graphemeBreaks.map (·.table)).toArray
def wordBreakTables : Array RangeTable := (wordBreaks.map (·.table)).toArray
def sentenceBreakTables : Array RangeTable := (sentenceBreaks.map (·.table)).toArray
def versionTables : Array RangeTable := (versions.map (·.table)).toArray

def Property.table : Property → RangeTable
  | .category index => categoryTables.getD index .empty
  | .script index => scriptTables.getD index .empty
  | .scriptExtension index => scriptExtensionTables.getD index .empty
  | .binary index => binaryTables.getD index .empty
  | .graphemeBreak index => graphemeBreakTables.getD index .empty
  | .wordBreak index => wordBreakTables.getD index .empty
  | .sentenceBreak index => sentenceBreakTables.getD index .empty
  | .newIn version => versionTables.getD version .empty

def Property.contains (property : Property) (c : Char) : Bool :=
  property.table.contains c.toNat

/-- A name in the form in which names are compared. The name "isc" of another property would
otherwise be taken for the category C. -/
def comparableName (name : List Char) : List Char :=
  let lower := name.map Char.toLower
  let isMarked := lower.take 2 == ['i', 's']
  let kept := (if isMarked then lower.drop 2 else lower).filter
    fun c => c.toNat < 0x80 && c != ' ' && c != '_' && c != '-'
  if isMarked && kept == ['c'] then ['i', 's', 'c'] else kept

def indexNamed? (entries : List NamedRanges) (name : List Char) : Option Nat :=
  entries.findIdx? (·.names.any (comparableName ·.toList == name))

inductive PropertyQuery where
  | any
  | assigned
  | ascii
  | property (property : Property)
  | knownIn (version : Nat)
deriving DecidableEq, Repr

def categoryNamed? (name : List Char) : Option PropertyQuery :=
  if name == "any".toList then some .any
  else if name == "assigned".toList then some .assigned
  else if name == "ascii".toList then some .ascii
  else (indexNamed? generalCategories name).map (.property ∘ .category)

/-- The set that a name alone stands for: a binary property, a category or a script. Three short
names of categories are also names of other properties and stand for the category. -/
def propertyNamed? (name : List Char) : Option PropertyQuery :=
  let name := comparableName name
  let categoryFirst := [['c', 'f'], ['s', 'c'], ['l', 'c']].contains name
  match if categoryFirst then none else indexNamed? binaryProperties name with
  | some index => some (.property (.binary index))
  | none =>
    match categoryNamed? name with
    | some query => some query
    | none => (indexNamed? scripts name).map (.property ∘ .script)

def isName (name : List Char) (short long : String) : Bool :=
  name == short.toList || name == long.toList

def propertyWithValue? (property value : List Char) : Option PropertyQuery :=
  let property := comparableName property
  let value := comparableName value
  let among (entries : List NamedRanges) (found : Nat → Property) : Option PropertyQuery :=
    (indexNamed? entries value).map (.property ∘ found)
  if isName property "gc" "generalcategory" then categoryNamed? value
  else if isName property "sc" "script" then among scripts .script
  else if isName property "scx" "scriptextensions" then among scriptExtensions .scriptExtension
  else if isName property "gcb" "graphemeclusterbreak" then among graphemeBreaks .graphemeBreak
  else if isName property "wb" "wordbreak" then among wordBreaks .wordBreak
  else if isName property "sb" "sentencebreak" then among sentenceBreaks .sentenceBreak
  else if isName property "age" "age" then (indexNamed? versions value).map .knownIn
  else none

end Postal.Unicode
