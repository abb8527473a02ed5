import Postal.Text.Blank
import Postal.Text.Split

namespace Postal

def isFragmentSeparator (c : Char) : Bool :=
  c == ',' || c == '，' || c == '\n'

def isInnerSpace (c : Char) : Bool :=
  c == ' ' || c == '\t' || c == '\r'

def removeEmpty (fragments : List (List Char)) : List (List Char) :=
  (fragments.map trim).filter (! ·.isEmpty)

def splitFragments (text : List Char) : List (List Char) :=
  removeEmpty (splitWhere isFragmentSeparator (trim (collapse isInnerSpace ' ' text)))

end Postal
