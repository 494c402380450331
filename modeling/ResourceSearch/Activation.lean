import ResourceSearch.Config.File
import ResourceSearch.Report
import ResourceSearch.Service

/-!
# Activation

A host switches to the search backend in three steps: the indices are created, a query that finds
nothing shows that the engine works, and the configuration is written to a file. Each step is
taken only if the ones before it succeeded, so the file tells that the backend works.
-/

namespace ResourceSearch

/-- The query that shows whether the engine works. No index serves its target. -/
def healthQuery : Query.UserQuery where
  text := ""
  resourceType := "sample"
  offset := 0
  limit := 10
  sort := "_id"
  direction := .descending

/-- What is reported when indices could not be created. -/
def creationFailure (error : CreationError) : Report :=
  .error ("Error while indices creation: " ++ error.message)

namespace Service

variable {σ : Type}

/-- Writes the configuration to a file, if one is given, and reports on it. -/
def register (service : Service σ) : Option String → Run σ (List Report)
  | none => return []
  | some path => do
    match ← service.config.save path with
    | .ok () => return [.info ("Configuration written to " ++ path)]
    | .error error => return [.error error.message]

/-- Switches the host to the service; `output` is the file for the configuration. -/
def activate (service : Service σ) (output : Option String) : Run σ Report := do
  match ← service.createConfigured with
  | .error error =>
    Run.log .error "Index creation failed" [("error", .string error.message)]
    return creationFailure error
  | .ok count =>
    match ← service.query healthQuery with
    | .error error =>
      Run.log .error "Health check query failed"
        [("error", .string error.message), ("host", .string service.config.primaryHost)]
      return .error "Elasticsearch server could not be found"
    | .ok _ =>
      let written ← service.register output
      Run.log .info "Search backend activated" [("host", .string service.config.primaryHost)]
      return .node .success "Switched to Elasticsearch"
        (.info (toString count ++ " indices ready") :: written)

/-- Creates the indices that a file defines, and reports on it. -/
def createIndices (service : Service σ) (path : String) : Run σ Report := do
  match ← service.createFromFile path with
  | .error error => return creationFailure error
  | .ok count =>
    Run.log .info "Indices created" [("count", .nat count), ("path", .string path)]
    return .success "Elastic indices created successfully"

end Service

end ResourceSearch
