import Postal.Files.Basic
import Postal.Files.Path

namespace Postal

abbrev TreePlace := List String

structure FileTree where
  root : String
  files : List (TreePlace × ByteArray)
  directories : List TreePlace

namespace FileTree

def nameLimit : Nat := 255

def pathLimit : Nat := 4095

def isDirectory (tree : FileTree) (place : TreePlace) : Bool :=
  place.isEmpty || tree.directories.contains place

def file? (tree : FileTree) (place : TreePlace) : Option ByteArray :=
  tree.files.lookup place

def follow (tree : FileTree) (place : TreePlace) : List String → Except FileError TreePlace
  | [] => .ok place
  | part :: parts =>
    if tree.isDirectory place then
      if part = "" || part = "." then follow tree place parts
      else if part = ".." then
        if place.isEmpty then .error .notFound else follow tree place.dropLast parts
      else if nameLimit < part.utf8ByteSize then .error .nameTooLong
      else follow tree (place ++ [part]) parts
    else if (tree.file? place).isSome then .error .notDirectory
    else .error .notFound

def partsFromRoot? (tree : FileTree) (path : String) : Option (List String) :=
  let parts := pathParts path
  let rootParts := pathParts tree.root
  if rootParts.isPrefixOf parts then some (parts.drop rootParts.length)
  else if path.toList.head? = some '/' then none
  else some parts

def locate (tree : FileTree) (path : String) : Except FileError TreePlace :=
  if path.toList.contains (Char.ofNat 0) then .error .nameInvalid
  else if pathLimit < path.utf8ByteSize then .error .nameTooLong
  else if path.isEmpty then .error .notFound
  else match tree.partsFromRoot? path with
    | none => .error .notFound
    | some parts => tree.follow [] parts

def read (tree : FileTree) (path : String) : Except FileError String := do
  let place ← tree.locate path
  if tree.isDirectory place then throw .isDirectory
  match tree.file? place with
  | none => throw .notFound
  | some content =>
    match String.fromUTF8? content with
    | none => throw .notText
    | some text => return text

def putFile (tree : FileTree) (place : TreePlace) (content : ByteArray) : FileTree :=
  { tree with files := (place, content) :: tree.files.filter (·.1 != place) }

def dropSlashes (path : String) : String :=
  String.ofList (path.toList.reverse.dropWhile (· == '/')).reverse

def write (tree : FileTree) (path text : String) : Except FileError FileTree := do
  let place ← tree.locate (dropSlashes path)
  if tree.isDirectory place then throw .isDirectory
  if dropSlashes path ≠ path then
    throw (if (tree.file? place).isSome then .notDirectory else .isDirectory)
  return tree.putFile place text.toUTF8

def holds (tree : FileTree) (path : String) : Bool :=
  match tree.locate path with
  | .ok place => tree.isDirectory place || (tree.file? place).isSome
  | .error _ => false

def putDirectory (tree : FileTree) (place : TreePlace) : FileTree :=
  let outer := (List.range place.length).map fun count => place.take (count + 1)
  { tree with directories := tree.directories ++ outer.filter (! tree.directories.contains ·) }

def makeAlong (tree : FileTree) (place : TreePlace) : List String → Except FileError FileTree
  | [] => .ok tree
  | part :: parts =>
    if part = "" || part = "." then makeAlong tree place parts
    else if part = ".." then
      if place.isEmpty then .error .notFound else makeAlong tree place.dropLast parts
    else
      let next := place ++ [part]
      if (tree.file? next).isSome then
        .error (if parts.isEmpty then .alreadyExists else .notDirectory)
      else if nameLimit < part.utf8ByteSize then .error .nameTooLong
      else makeAlong (tree.putDirectory next) next parts

def makeDirectories (tree : FileTree) (path : String) : Except FileError FileTree :=
  if path.isEmpty then .ok tree
  else if path.toList.contains (Char.ofNat 0) then .error .nameInvalid
  else if pathLimit < path.utf8ByteSize then .error .nameTooLong
  else match tree.partsFromRoot? path with
    | none => .error (.other "Permission denied (os error 13)")
    | some parts => tree.makeAlong [] parts

def change (result : FileTree → Except FileError FileTree) :
    StateM FileTree (Except FileError Unit) := do
  match result (← get) with
  | .ok tree => set tree; return .ok ()
  | .error cause => return .error cause

def fileSystem : FileSystem (StateM FileTree) where
  read path := return (← get).read path
  write path text := change (·.write path text)
  holds path := return (← get).holds path
  makeDirectories path := change (·.makeDirectories path)

end FileTree

end Postal
