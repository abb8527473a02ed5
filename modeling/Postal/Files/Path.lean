import Postal.Text.Split

namespace Postal

def joinPath (base path : String) : String :=
  if path.toList.head? = some '/' || base.isEmpty then path
  else if base.toList.getLast? = some '/' then base ++ path
  else base ++ "/" ++ path

def joinPaths (base : String) (parts : List String) : String :=
  parts.foldl joinPath base

def pathParts (path : String) : List String :=
  (splitWhere (· == '/') path.toList).map String.ofList

def parentParts (parts : List String) : Option (List String) :=
  match parts.reverse.dropWhile fun part => part = "" || part = "." with
  | [] => none
  | _ :: outer => some outer.reverse

def parentPath? (path : String) : Option String :=
  if path.isEmpty then none
  else match parentParts (pathParts path) with
    | none => if path.toList.head? = some '/' then none else some ""
    | some [""] => some "/"
    | some parts => some ("/".intercalate parts)

end Postal
