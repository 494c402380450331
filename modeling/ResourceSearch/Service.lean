import ResourceSearch.Config.Basic
import ResourceSearch.Definition.BuiltIn
import ResourceSearch.Definition.File
import ResourceSearch.Engine.Response
import ResourceSearch.Indexing
import ResourceSearch.Lookup
import ResourceSearch.Query.Compiler
import ResourceSearch.SchemaChange
import ResourceSearch.Text.Quoted

/-!
# The search service

What a host sees: queries, indexing, schema changes and the administration of indices, all on one
engine and one configuration. A service of a host with access control filters the queries of its
users; a raw query in the engine's own syntax goes through as it is.
-/

namespace ResourceSearch

/-- A search backend. -/
structure Service (σ : Type) where
  engine : Engine σ
  config : Config
  /-- Without access control no query is filtered. -/
  access : Option AccessControl

/-- A query in the engine's own syntax. -/
structure RawQuery where
  index : String
  offset : Nat := 0
  limit : Nat := 1000
  /-- What has to hold, all at once. -/
  conditions : List String := []
deriving DecidableEq, Repr

/-- The text of a raw query. -/
def RawQuery.text (query : RawQuery) : String :=
  Query.conjunction query.conditions

/-- A user's query that could not be answered. -/
structure QueryError where
  /-- What the user typed. -/
  query : String
  /-- What went wrong. -/
  detail : String
deriving DecidableEq, Repr

def QueryError.message (error : QueryError) : String :=
  error.detail ++ " (query: " ++ Text.quoted error.query ++ ")"

/-- Why indices could not be created. -/
inductive CreationError where
  | config (error : ConfigError)
  | engine (error : EngineError)

def CreationError.message : CreationError → String
  | config error => error.message
  | engine error => error.message

namespace Service

variable {σ : Type}

def compiler (service : Service σ) : Query.Compiler :=
  ⟨service.config.routing, service.access⟩

def indexer (service : Service σ) : Indexer :=
  .new service.config.routing service.config.batchSize.toNat

/-! ## Queries -/

/-- What a user is told when the engine fails: the engine's reason if it understood the query to
be wrong, and nothing in particular otherwise. -/
def failureDetail (error : EngineError) : String :=
  if error.status? = some 400 then
    "There is an error in your search query, system returned: " ++ error.reason?.getD ""
  else "An unknown error occurred during search"

/-- Runs a user's query. -/
def query (service : Service σ) (query : Query.UserQuery) :
    Run σ (Except QueryError ResultSet) := do
  Run.logAll (service.compiler.events query)
  match ← Run.call service.engine (.search (service.compiler.compile query)) with
  | .ok response => return .ok (.ofResponse response)
  | .error error =>
    Run.log .error ("Search failed: " ++ failureDetail error)
      [("query", .string query.text), ("error", .string error.message)]
    return .error ⟨query.text, failureDetail error⟩

/-- Runs a raw query. -/
def search (service : Service σ) (query : RawQuery) : Run σ (Except EngineError ResultSet) := do
  let request := Query.Compiler.compileRaw query.index query.text query.offset query.limit
  Run.log .debug "Running structured query"
    [("index", .string query.index), ("body", .string request.body.compact)]
  return (← Run.call service.engine (.search request)).map .ofResponse

/-! ## Documents -/

/-- Indexes documents in their order. -/
def index (service : Service σ) (documents : List IndexDocument) : Run σ IndexingStats :=
  service.indexer.run service.engine documents

/-- Removes a document; tells whether there was one to be removed. -/
def remove (service : Service σ) (id : String) : Run σ (Except EngineError Bool) :=
  service.engine.remove id

/-- The first document found that has one of some identifiers. -/
def lookup (service : Service σ) (ids : List String) :
    Run σ (Except EngineError (Option Json)) :=
  service.engine.lookup ids

/-- Carries out a schema change in the stored documents. -/
def change (service : Service σ) (change : SchemaChange) :
    Run σ (Except SchemaChangeError Unit) :=
  change.run service.config.routing service.engine

/-! ## Indices -/

/-- Creates indices in their order, up to the first that fails. -/
def createAll (service : Service σ) : List IndexDefinition → Run σ (Except EngineError Unit)
  | [] => return .ok ()
  | definition :: definitions => do
    match ← Run.call service.engine (.createIndex definition) with
    | .error error => return .error error
    | .ok _ =>
      Run.log .info "Index created" [("index", .string definition.index)]
      service.createAll definitions

/-- Creates indices and counts them. -/
def createCounted (service : Service σ) (definitions : List IndexDefinition) :
    Run σ (Except CreationError Nat) := do
  match ← service.createAll definitions with
  | .error error => return .error (.engine error)
  | .ok () => return .ok definitions.length

/-- Creates the indices that a file defines. -/
def createFromFile (service : Service σ) (path : String) : Run σ (Except CreationError Nat) := do
  match ← DefinitionFile.load path with
  | .error error => return .error (.config error)
  | .ok definitions => service.createCounted definitions

/-- Creates the indices of the configured file, or the built-in ones. -/
def createConfigured (service : Service σ) : Run σ (Except CreationError Nat) :=
  match service.config.indexFile with
  | some path => service.createFromFile path
  | none => service.createCounted service.config.definitions

/-- Drops all indices that exist. -/
def flush (service : Service σ) : Run σ Answer := do
  let indices := service.config.routing.physicalIndices
  Run.log .info "Dropping indices" [("indices", .string (",".intercalate indices))]
  Run.call service.engine (.deleteIndices indices)

/-- Whether a host may define indices of its own. -/
def supportsCustomIndex (_ : Service σ) : Bool := true

end Service

end ResourceSearch
