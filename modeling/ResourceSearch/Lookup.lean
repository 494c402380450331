import ResourceSearch.Engine.Response
import ResourceSearch.Json.Printer

/-!
# Looking up and removing by identifier

A document is looked up by its identifier in all indices at once, and the first hit counts. What
is removed is what that hit names: a hit that does not say where the document is stored removes
nothing.
-/

namespace ResourceSearch

/-- The request for the documents with some identifiers. -/
def SearchRequest.forIds (ids : List String) : SearchRequest where
  index := none
  offset := none
  size := none
  body := .object [("query", .object [("ids", .object [("values", .strings ids)])])]
  ignoreNotFound := false

namespace Engine

variable {σ : Type}

/-- The first document found that has one of some identifiers. -/
def lookup (engine : Engine σ) (ids : List String) :
    Run σ (Except EngineError (Option Json)) := do
  return (← Run.call engine (.search (.forIds ids))).map Response.firstHit?

/-- Removes what a hit names; `id` is the identifier that was looked up. -/
def removeHit (engine : Engine σ) (id : String) (hit : Json) :
    Run σ (Except EngineError Bool) := do
  match Hit.index? hit with
  | none =>
    Run.log .warn "Lookup hit carries no index, nothing to delete"
      [("document_id", .string id), ("hit", .string hit.compact)]
    return .ok false
  | some index =>
    let id := (Hit.id? hit).getD id
    match ← Run.call engine (.delete index id) with
    | .error error => return .error error
    | .ok _ =>
      Run.log .info "Deleted document" [("document_id", .string id), ("index", .string index)]
      return .ok true

/-- Removes the document with an identifier; tells whether there was one to be removed. -/
def remove (engine : Engine σ) (id : String) : Run σ (Except EngineError Bool) := do
  match ← engine.lookup [id] with
  | .error error => return .error error
  | .ok none =>
    Run.log .debug "Document not found, nothing to delete" [("document_id", .string id)]
    return .ok false
  | .ok (some hit) => engine.removeHit id hit

end Engine

end ResourceSearch
