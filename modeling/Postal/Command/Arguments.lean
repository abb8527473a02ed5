import Postal.Command.Options

namespace Postal

inductive Refusal where
  | usage
  | helpAsked
  | versionAsked
deriving DecidableEq, Repr

abbrev GivenOption := OptionSpec × String

structure Reading where
  command : CommandName := .main
  given : List GivenOption := []
  outer : List GivenOption := []
  positionals : List String := []
  awaited : Option OptionSpec := none
  literal : Bool := false
deriving DecidableEq, Repr

namespace Reading

def give (reading : Reading) (option : OptionSpec) (value : String) : Except Refusal Reading :=
  if option = .help then .error .helpAsked
  else if option = .version then .error .versionAsked
  else if ! option.kind.accepts value then .error .usage
  else if ! option.kind.repeats && reading.given.any (·.1 = option) then .error .usage
  else .ok { reading with given := reading.given ++ [(option, value)], awaited := none }

def takePositional (reading : Reading) (argument : String) : Except Refusal Reading :=
  if reading.positionals.length < reading.command.arity.2 then
    .ok { reading with positionals := reading.positionals ++ [argument] }
  else .error .usage

def enter (reading : Reading) (command : CommandName) : Reading where
  command
  outer := reading.given.reverse ++ reading.outer

def takeLong (reading : Reading) (text : List Char) : Except Refusal Reading :=
  let name := String.ofList (text.takeWhile (· != '='))
  let value? := match text.dropWhile (· != '=') with
    | [] => none
    | _ :: value => some (String.ofList value)
  match reading.command.options.find? (·.name == name), value? with
  | none, _ => .error .usage
  | some option, some value =>
    if option.kind.takesValue then reading.give option value else .error .usage
  | some option, none =>
    if option.kind.takesValue then .ok { reading with awaited := some option }
    else reading.give option ""

def attachedValue : List Char → String
  | '=' :: value => String.ofList value
  | value => String.ofList value

def takeLetters (reading : Reading) : List Char → Except Refusal Reading
  | [] => .ok reading
  | letter :: rest =>
    match reading.command.options.find? (·.letter == some letter) with
    | none => .error .usage
    | some option =>
      if option.kind.takesValue then
        if rest.isEmpty then .ok { reading with awaited := some option }
        else reading.give option (attachedValue rest)
      else
        match reading.give option "" with
        | .ok reading => takeLetters reading rest
        | .error refusal => .error refusal

def isOption : List Char → Bool
  | '-' :: _ :: _ => true
  | _ => false

def step (reading : Reading) (argument : String) : Except Refusal Reading :=
  if reading.literal then reading.takePositional argument
  else match reading.awaited with
    | some option =>
      if isOption argument.toList then .error .usage else reading.give option argument
    | none =>
      match reading.command.subcommand? argument with
      | some command => .ok (reading.enter command)
      | none =>
        match argument.toList with
        | ['-', '-'] => .ok { reading with literal := true }
        | '-' :: '-' :: text => reading.takeLong text
        | '-' :: letter :: letters => reading.takeLetters (letter :: letters)
        | _ => reading.takePositional argument

def isComplete (reading : Reading) : Bool :=
  reading.awaited.isNone && reading.command.subcommands.isEmpty &&
    reading.command.arity.1 ≤ reading.positionals.length

def value? (reading : Reading) (option : OptionSpec) : Option String :=
  ((reading.given.reverse ++ reading.outer).find? (·.1 = option)).map (·.2)

def values (reading : Reading) (option : OptionSpec) : List String :=
  (reading.given.filter (·.1 = option)).map (·.2)

def has (reading : Reading) (option : OptionSpec) : Bool :=
  (reading.value? option).isSome

end Reading

def helpWord : String := "help"

namespace Reading

def asksHelp (reading : Reading) (argument : String) : Bool :=
  ! reading.literal && reading.awaited.isNone && ! reading.command.subcommands.isEmpty &&
    argument == helpWord

def helpRefusal (command : CommandName) : List String → Refusal
  | [] => .helpAsked
  | name :: names =>
    match command.subcommand? name with
    | some inner => helpRefusal inner names
    | none => .usage

def read (reading : Reading) : List String → Except Refusal Reading
  | [] => .ok reading
  | argument :: arguments =>
    if reading.asksHelp argument then .error (helpRefusal reading.command arguments)
    else match reading.step argument with
      | .ok reading => reading.read arguments
      | .error refusal => .error refusal

end Reading

def readArguments (arguments : List String) : Except Refusal Reading := do
  let reading ← ({} : Reading).read arguments
  if reading.isComplete then return reading else throw .usage

end Postal
