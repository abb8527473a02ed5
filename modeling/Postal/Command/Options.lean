namespace Postal

inductive OptionKind where
  | counted
  | flag
  | text
  | path
  | paths
  | choice (words : List String)
deriving DecidableEq, Repr

def OptionKind.takesValue : OptionKind → Bool
  | counted | flag => false
  | text | path | paths | choice _ => true

def OptionKind.repeats : OptionKind → Bool
  | counted | paths => true
  | flag | text | path | choice _ => false

def OptionKind.accepts (value : String) : OptionKind → Bool
  | path | paths => ! value.isEmpty
  | choice words => words.contains value
  | _ => true

structure OptionSpec where
  name : String
  letter : Option Char
  kind : OptionKind
deriving DecidableEq, Repr

namespace OptionSpec

def verbose : OptionSpec := ⟨"verbose", some 'v', .counted⟩
def config : OptionSpec := ⟨"config", some 'c', .text⟩
def help : OptionSpec := ⟨"help", some 'h', .flag⟩
def version : OptionSpec := ⟨"version", some 'V', .flag⟩
def input : OptionSpec := ⟨"input", some 'i', .path⟩
def output : OptionSpec := ⟨"output", some 'o', .path⟩
def locale : OptionSpec := ⟨"locale", some 'l', .text⟩
def style : OptionSpec := ⟨"style", some 's', .text⟩
def display : OptionSpec := ⟨"display", some 'd', .text⟩
def format : OptionSpec := ⟨"format", some 'f', .choice ["json", "text"]⟩
def text : OptionSpec := ⟨"text", none, .flag⟩
def force : OptionSpec := ⟨"force", none, .flag⟩
def dataDir : OptionSpec := ⟨"data-dir", none, .paths⟩

end OptionSpec

inductive CommandName where
  | main
  | parse
  | format
  | info
  | config
  | configShow
  | configInit
  | configGet
  | configSet
  | configPath
deriving DecidableEq, Repr, Inhabited

namespace CommandName

def commonOptions : List OptionSpec :=
  [.verbose, .config, .help]

def options (command : CommandName) : List OptionSpec :=
  commonOptions ++ match command with
    | main => [.version]
    | parse => [.input, .locale, .output, .format, .dataDir]
    | format => [.input, .locale, .style, .dataDir]
    | info => [.locale, .display, .style, .text, .dataDir]
    | configInit => [.output, .force]
    | config | configShow | configGet | configSet | configPath => []

def subcommands : CommandName → List (String × CommandName)
  | main => [("parse", parse), ("format", format), ("info", info), ("config", config)]
  | config => [("show", configShow), ("init", configInit), ("get", configGet), ("set", configSet),
      ("path", configPath)]
  | _ => []

def subcommand? (command : CommandName) (name : String) : Option CommandName :=
  command.subcommands.lookup name

def arity : CommandName → Nat × Nat
  | parse | format => (0, 1)
  | configGet => (1, 1)
  | configSet => (2, 2)
  | main | info | config | configShow | configInit | configPath => (0, 0)

end CommandName

end Postal
