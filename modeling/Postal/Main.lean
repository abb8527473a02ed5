import Postal.Command.Execution

namespace Postal

def errorNumber (code : UInt32) : UInt32 :=
  if code < 0x80000000 then code else 0 - code

def fileErrorOf (cause : IO.Error) : FileError :=
  match cause with
  | .noFileOrDirectory .. => .notFound
  | .alreadyExists .. => .alreadyExists
  | .inappropriateType _ code _ | .invalidArgument _ code _ =>
    if errorNumber code = 20 then .notDirectory
    else if errorNumber code = 21 then .isDirectory
    else if errorNumber code = 36 then .nameTooLong
    else .other cause.toString
  | _ => .other cause.toString

def attempt {α : Type} (operation : IO α) : IO (Except FileError α) := do
  match ← operation.toBaseIO with
  | .ok value => return .ok value
  | .error cause => return .error (fileErrorOf cause)

def decodeText (content : ByteArray) : Except FileError String :=
  match String.fromUTF8? content with
  | some text => .ok text
  | none => .error .notText

def computerFiles : FileSystem IO where
  read path := do
    match ← attempt (IO.FS.readBinFile path) with
    | .ok content => return decodeText content
    | .error cause => return .error cause
  write path text := attempt (IO.FS.writeFile path text)
  holds path := do
    match ← attempt (IO.FS.Handle.mk path .read) with
    | .ok _ => return true
    | .error cause => return ! [.notFound, .notDirectory, .nameTooLong].contains cause
  makeDirectories path := do
    if path.isEmpty then return .ok ()
    else attempt (IO.FS.createDirAll path)

partial def readAll (stream : IO.FS.Stream) (before : ByteArray) : IO ByteArray := do
  let chunk ← stream.read 65536
  if chunk.isEmpty then return before else readAll stream (before ++ chunk)

def userSettingsPath : IO String := do
  let folder ← match ← IO.getEnv "XDG_CONFIG_HOME" with
    | some folder =>
      if folder.toList.head? = some '/' then pure (some folder) else pure none
    | none => pure none
  let home ← IO.getEnv "HOME"
  let folder := (folder.or (home.map (joinPath · ".config"))).getD "."
  return joinPaths folder ["addrfmt", "config.json"]

def computer : IO (System IO) := do
  let settingsPath ← userSettingsPath
  return {
    files := computerFiles
    readInput := do
      match ← attempt (do readAll (← IO.getStdin) ByteArray.empty) with
      | .ok content => return decodeText content
      | .error cause => return .error cause
    settingsPath }

end Postal

open Postal in
def main (arguments : List String) : IO UInt32 := do
  let report ← execute (← computer) arguments
  (← IO.getStdout).putStr report.output
  match report.failure with
  | none => pure ()
  | some cause =>
    (← IO.getStderr).putStrLn ("Error: " ++ cause.message?.getD "not in the expected form")
  if report.code = 2 then (← IO.getStderr).putStr usageText
  return UInt32.ofNat report.code
