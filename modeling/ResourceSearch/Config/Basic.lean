import ResourceSearch.Routing
import ResourceSearch.Text.Blank

/-!
# Configuration

What a host can set about its search backend. Every setting has a default, so a configuration
may say as little as it likes; a few settings have to make sense together before a service is
built on them.
-/

namespace ResourceSearch

/-- How to authenticate with the engine. -/
inductive Auth where
  | basic (username password : String)
  | bearer (token : String)
deriving DecidableEq, Repr

/-- The lengths of the word beginnings that autocompletion finds. -/
structure Autocomplete where
  minGram : UInt32 := 1
  maxGram : UInt32 := 100
deriving DecidableEq, Repr

/-- The engine's address where none is configured. -/
def defaultHost : String := "http://localhost:9200"

/-- The settings of a search backend. -/
structure Config where
  /-- The addresses of the engine, of which the first is used. -/
  hosts : List String := [defaultHost]
  auth : Option Auth := none
  /-- How long to wait for an answer, in milliseconds. -/
  requestTimeout : UInt64 := 30000
  /-- Whether any certificate of the engine is accepted. -/
  disableCertificateValidation : Bool := false
  /-- The file with the definitions of the indices; the built-in ones are used without it. -/
  indexFile : Option String := none
  /-- How many documents are sent in one call. -/
  batchSize : UInt64 := 100
  numberOfShards : UInt32 := 1
  numberOfReplicas : UInt32 := 1
  autocomplete : Autocomplete := {}
  routing : RoutingTable := .builtIn
deriving DecidableEq

/-- Why a file of settings or definitions cannot be used. -/
inductive ConfigError where
  /-- The file cannot be read or written as text. -/
  | inaccessible (path : String)
  /-- The text of the file does not describe what it should. -/
  | malformed (path : String)
  /-- What the file describes does not make sense. -/
  | invalid (problem : String)
deriving DecidableEq, Repr

def ConfigError.message : ConfigError → String
  | inaccessible path => "failed to read " ++ path
  | malformed path => "failed to parse " ++ path
  | invalid problem => "invalid configuration: " ++ problem

namespace Config

/-! ## Validity -/

/-- What does not make sense about a configuration, in the order of the settings. -/
def problems (config : Config) : List String :=
  (if config.hosts.isEmpty then ["at least one host is required"] else []) ++
  (if config.batchSize = 0 then ["batch size cannot be 0"] else []) ++
  (if config.requestTimeout = 0 then ["request timeout cannot be 0"] else []) ++
  if config.autocomplete.minGram = 0 || config.autocomplete.maxGram < config.autocomplete.minGram
  then ["autocomplete min_gram must be between 1 and max_gram"] else []

/-- Refuses a configuration that has problems. -/
def validate (config : Config) : Except ConfigError Unit :=
  if config.problems.isEmpty then .ok () else .error (.invalid ("; ".intercalate config.problems))

/-! ## The host -/

/-- What follows the scheme of an address, if it has one. -/
def afterScheme? : List Char → Option (List Char)
  | ':' :: '/' :: '/' :: rest => some rest
  | _ :: rest => afterScheme? rest
  | [] => none

/-- Whether an address has a colon besides that of its scheme. -/
def hasColon (url : List Char) : Bool :=
  ':' ∈ (afterScheme? url).getD url

/-- An address with a port added, unless it already seems to have one. -/
def hostChars (url : List Char) (port : Option UInt16) : List Char :=
  let url := Text.dropEndWhile (· = '/') url
  match port with
  | some port => if hasColon url then url else url ++ ':' :: Nat.toDigits 10 port.toNat
  | none => url

/-- Makes an address the only host. -/
def withHost (config : Config) (url : String) (port : Option UInt16) : Config :=
  { config with hosts := [String.ofList (hostChars url.toList port)] }

/-- The host that is used. -/
def primaryHost (config : Config) : String :=
  config.hosts.head?.getD defaultHost

end Config

end ResourceSearch
