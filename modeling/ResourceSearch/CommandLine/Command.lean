import ResourceSearch.CommandLine.Scan

/-!
# Commands

What the program can be told to do: to activate the backend, or to create the indices that a file
defines. The level of logging and the configuration to start from may stand before the command or
after it; what stands after it counts.
-/

namespace ResourceSearch

open CommandLine

/-- What to activate the backend with. -/
structure ActivationArguments where
  url : Option String
  port : Option UInt16
  user : Option String
  password : Option String
  /-- The file with the definitions of the indices. -/
  indexFile : Option String
  /-- The file for the configuration of an active backend. -/
  outputConfig : Option String
deriving DecidableEq, Repr

inductive Command where
  | activate (arguments : ActivationArguments)
  | createIndices (indexFile : String)
deriving DecidableEq, Repr

/-- What the program is told to do. -/
structure CommandLine where
  logLevel : String
  /-- The file with the configuration to start from. -/
  config : Option String
  command : Command
deriving DecidableEq, Repr

namespace CommandLine

/-- The options that may stand on either side of the command. -/
def globalOptions : List Parameter :=
  [⟨"log-level", none, .text⟩, ⟨"config", none, .path⟩]

def indexFileOption : Parameter := ⟨"index-file", some 'f', .path⟩

/-- The commands of the program, and what shows help on them. -/
def topLevel : Level where
  options := globalOptions
  positionals := []
  commands := ["activate", "create-indices", "help"]

def activateLevel : Level where
  options := indexFileOption :: ⟨"output-config", some 'o', .path⟩ :: globalOptions
  positionals :=
    [⟨"url", none, .text⟩, ⟨"port", none, .port⟩, ⟨"user", none, .text⟩,
      ⟨"password", none, .text⟩]
  commands := []

def createIndicesLevel : Level where
  options := indexFileOption :: globalOptions
  positionals := []
  commands := []

/-- The command with a name, given its arguments, and the values of the global options that stand
among them. -/
def commandNamed (name : String) (arguments : List String) :
    Except UsageError (Command × List (String × String)) := do
  if name = "activate" then
    let values ← activateLevel.values arguments
    return (.activate
      { url := values.lookup "url"
        port := (values.lookup "port").bind port?
        user := values.lookup "user"
        password := values.lookup "password"
        indexFile := values.lookup "index-file"
        outputConfig := values.lookup "output-config" }, values)
  else
    let values ← createIndicesLevel.values arguments
    match values.lookup "index-file" with
    | some indexFile => return (.createIndices indexFile, values)
    | none => throw .missingRequired

/-- What a request for help on some commands leads to. -/
def help (names : List String) : UsageError :=
  match names with
  | [] => .displayHelp
  | [name] => if name ∈ topLevel.commands then .displayHelp else .unknownCommand
  | _ => .unknownCommand

/-- What arguments tell the program to do. -/
def ofArguments (arguments : List String) : Except UsageError CommandLine := do
  match ← topLevel.scan (.start topLevel) arguments with
  | (scan, none) =>
    if (← scan.settle).values.isEmpty then throw .displayHelpOnMissing else throw .missingCommand
  | (scan, some (name, rest)) =>
    if name = "help" then throw (help rest)
    let (command, inner) ← commandNamed name rest
    let outer := (← scan.settle).values
    return {
      logLevel := ((inner.lookup "log-level").or (outer.lookup "log-level")).getD "info"
      config := (inner.lookup "config").or (outer.lookup "config")
      command := command }

end CommandLine

end ResourceSearch
