/-!
# Scanning a command line

The arguments of a command are options, which have a name and a value, and positionals. An option
takes its value from the same argument or from the next one; a double dash ends the options. What
has been read last is kept pending until the next argument shows that it is complete, so of two
faults the one that is noticed first counts.
-/

namespace ResourceSearch.CommandLine

/-- Why the arguments are not a command, or ask for something other than a command. -/
inductive UsageError where
  | displayHelp
  /-- There are no arguments at all. -/
  | displayHelpOnMissing
  | missingCommand
  | unknownCommand
  | unknownArgument
  | missingRequired
  /-- An option without a value, or an empty path. -/
  | invalidValue
  /-- A value for an option that takes none. -/
  | surplusValue
  /-- A value that does not read as what it should be. -/
  | valueValidation
  /-- An option that is given twice. -/
  | argumentConflict
deriving DecidableEq, Repr

/-- The name under which an error is reported. -/
def UsageError.name : UsageError → String
  | displayHelp => "DisplayHelp"
  | displayHelpOnMissing => "DisplayHelpOnMissingArgumentOrSubcommand"
  | missingCommand => "MissingSubcommand"
  | unknownCommand => "InvalidSubcommand"
  | unknownArgument => "UnknownArgument"
  | missingRequired => "MissingRequiredArgument"
  | invalidValue => "InvalidValue"
  | surplusValue => "TooManyValues"
  | valueValidation => "ValueValidation"
  | argumentConflict => "ArgumentConflict"

/-! ## Parameters -/

/-- The number that decimal digits spell, if there are any. -/
def digitsNumber? (cs : List Char) : Option Nat :=
  if cs.isEmpty || cs.any (!·.isDigit) then none
  else some (cs.foldl (fun n c ↦ n * 10 + (c.toNat - '0'.toNat)) 0)

/-- The port that a text spells: decimal digits after an optional sign, in the range of ports. -/
def port? (text : String) : Option UInt16 :=
  match text.toList with
  | '-' :: digits => if digitsNumber? digits = some 0 then some 0 else none
  | '+' :: digits => inRange? (digitsNumber? digits)
  | digits => inRange? (digitsNumber? digits)
where
  /-- A number in the range of ports. -/
  inRange? (n : Option Nat) : Option UInt16 :=
    n.bind fun n ↦ if n < UInt16.size then some n.toUInt16 else none

/-- What the value of a parameter has to be. -/
inductive ValueKind where
  | text
  | path
  | port
deriving DecidableEq, Repr

/-- Refuses a value that is not of its kind. -/
def ValueKind.check (kind : ValueKind) (value : String) : Except UsageError Unit :=
  match kind with
  | text => .ok ()
  | path => if value = "" then .error .invalidValue else .ok ()
  | port => if (port? value).isNone then .error .valueValidation else .ok ()

/-- An option or a positional. -/
structure Parameter where
  name : String
  /-- The letter that may stand for the name of an option. -/
  letter : Option Char
  kind : ValueKind
deriving DecidableEq, Repr

/-- What a command, or the program itself, can be given. -/
structure Level where
  options : List Parameter
  positionals : List Parameter
  /-- The commands that may follow. -/
  commands : List String

/-! ## Arguments -/

/-- What an argument looks like. -/
inductive Token where
  /-- The double dash. -/
  | separator
  | long (name : String) (value : Option String)
  | short (letter : Char) (rest : List Char)
  | plain

namespace Token

def ofString (argument : String) : Token :=
  match argument.toList with
  | ['-', '-'] => .separator
  | '-' :: '-' :: cs =>
    .long (String.ofList (cs.takeWhile (· ≠ '='))) <|
      match cs.dropWhile (· ≠ '=') with
      | [] => none
      | _ :: value => some (String.ofList value)
  | '-' :: letter :: rest => .short letter rest
  | _ => .plain

/-- The value that follows a letter in the same argument, an equals sign between them or not. -/
def attachedValue? : List Char → Option String
  | [] => none
  | '=' :: value => some (String.ofList value)
  | value => some (String.ofList value)

end Token

/-! ## Scanning -/

/-- How far the arguments have been read. -/
structure Scan where
  /-- The values that are complete, by the names of their parameters. -/
  values : List (String × String)
  /-- What has been read last, with its value if that has been read too. -/
  pending : Option (Parameter × Option String)
  /-- The positionals that are left. -/
  positionals : List Parameter
  /-- Whether the options have ended. -/
  trailing : Bool

namespace Scan

def start (level : Level) : Scan := ⟨[], none, level.positionals, false⟩

/-- Whether the next argument may be the value of an option. -/
def isAwaiting (scan : Scan) : Bool :=
  match scan.pending with
  | some (_, none) => true
  | some (_, some _) | none => false

/-- Completes a parameter. -/
def complete (scan : Scan) (parameter : Parameter) (value : String) : Except UsageError Scan :=
  if scan.values.any (·.1 = parameter.name) then .error .argumentConflict
  else
    (parameter.kind.check value).map fun _ ↦
      { scan with values := scan.values ++ [(parameter.name, value)] }

/-- Completes what is pending. -/
def settle (scan : Scan) : Except UsageError Scan :=
  match scan.pending with
  | none => .ok scan
  | some (_, none) => .error .invalidValue
  | some (parameter, some value) => { scan with pending := none }.complete parameter value

/-- Takes an option, with the value that stands in the same argument if one does. -/
def takeOption (scan : Scan) (option : Parameter) (value : Option String) :
    Except UsageError Scan := do
  let scan ← scan.settle
  match value with
  | some value => scan.complete option value
  | none => return { scan with pending := some (option, none) }

/-- Takes a request for help, which ends the scan. -/
def takeHelp (scan : Scan) : Except UsageError Scan :=
  scan.settle.bind fun _ ↦ .error .displayHelp

/-- Takes an argument that is not an option. -/
def takePositional (scan : Scan) (level : Level) (argument : String) : Except UsageError Scan :=
  match scan.positionals with
  | positional :: positionals =>
    scan.settle.map fun scan ↦
      { scan with pending := some (positional, some argument), positionals := positionals }
  | [] =>
    if level.commands.isEmpty || (scan.trailing && argument ∈ level.commands) then
      .error .unknownArgument
    else .error .unknownCommand

/-- Takes an argument among the options. -/
def takeArgument (scan : Scan) (level : Level) (argument : String) : Except UsageError Scan :=
  match Token.ofString argument with
  | .separator => .ok { scan with trailing := true }
  | .long "help" value => if value.isSome then .error .surplusValue else scan.takeHelp
  | .long name value =>
    match level.options.find? (·.name = name) with
    | some option => scan.takeOption option value
    | none => .error .unknownArgument
  | .short 'h' _ => scan.takeHelp
  | .short letter rest =>
    match level.options.find? (·.letter = some letter) with
    | some option => scan.takeOption option (Token.attachedValue? rest)
    | none => .error .unknownArgument
  | .plain =>
    match scan.pending with
    | some (option, none) => .ok { scan with pending := some (option, some argument) }
    | some (_, some _) | none => scan.takePositional level argument

end Scan

namespace Level

/-- Reads arguments up to the first that names a command, which is returned with the arguments
after it. -/
def scan (level : Level) :
    Scan → List String → Except UsageError (Scan × Option (String × List String))
  | scan, [] => .ok (scan, none)
  | scan, argument :: rest =>
    if scan.trailing then
      match scan.takePositional level argument with
      | .error error => .error error
      | .ok scan => level.scan scan rest
    else if !scan.isAwaiting && argument ∈ level.commands then .ok (scan, some (argument, rest))
    else
      match scan.takeArgument level argument with
      | .error error => .error error
      | .ok scan => level.scan scan rest

/-- Reads arguments that hold no further command. -/
def values (level : Level) (arguments : List String) :
    Except UsageError (List (String × String)) := do
  let (scan, _) ← level.scan (.start level) arguments
  return (← scan.settle).values

end Level

end ResourceSearch.CommandLine
