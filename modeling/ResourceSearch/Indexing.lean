import ResourceSearch.Document
import ResourceSearch.Engine
import ResourceSearch.Routing

/-!
# Indexing

Documents are written in batches of a fixed size. Each document in turn is refused because it has
no type, passed over because no index serves its types, or accepted; accepted documents wait until
a batch is full, and what waits at the end makes a last, shorter batch. What the engine answers is
logged and changes nothing else: indexing goes on, and the documents of a failed batch count as
sent.
-/

namespace ResourceSearch

/-- What writes documents to the engine. -/
structure Indexer where
  routing : RoutingTable
  /-- How many documents are sent in one call. -/
  batchSize : Nat
  batchSize_pos : 0 < batchSize

/-- What became of the documents of one run. -/
structure IndexingStats where
  /-- Documents that were read. -/
  visited : Nat
  /-- Documents that no index serves. -/
  skipped : Nat
  /-- Documents without a type. -/
  exceptions : Nat
  /-- Documents that were sent. -/
  queued : Nat
  /-- Calls that were made. -/
  flushes : Nat
deriving DecidableEq, Repr

namespace IndexingStats

def zero : IndexingStats := ⟨0, 0, 0, 0, 0⟩

/-- Whether every document was sent. -/
def isClean (stats : IndexingStats) : Bool :=
  stats.queued = stats.visited && stats.skipped = 0 && stats.exceptions = 0

/-- What is logged at the end of a run. -/
def summary (stats : IndexingStats) : Event :=
  if stats.isClean then
    ⟨.debug, "Processed " ++ toString stats.queued ++ " items (no exceptions, no skipped items)",
      []⟩
  else
    ⟨.warn, toString stats.queued ++ " / " ++ toString stats.visited ++ " items were processed (" ++
      toString stats.skipped ++ " skipped, " ++ toString stats.exceptions ++ " exceptions)", []⟩

end IndexingStats

/-- What is done with a document. -/
inductive Disposition where
  /-- It has no type. -/
  | refused (error : ClassificationError)
  /-- No index serves its types. -/
  | unrouted
  /-- It is written to an index. -/
  | accepted (item : BulkItem)

namespace Indexer

/-- An indexer for a routing table; a batch holds at least one document. -/
def new (routing : RoutingTable) (batchSize : Nat) : Indexer :=
  ⟨routing, max batchSize 1, by omega⟩

/-- The index that serves a document. -/
def index (indexer : Indexer) (document : IndexDocument) : Except ClassificationError String :=
  document.types.map indexer.routing.indexForTypes

def disposition (indexer : Indexer) (document : IndexDocument) : Disposition :=
  match indexer.index document with
  | .error error => .refused error
  | .ok index =>
    if isUnclassified index then .unrouted
    else .accepted ⟨index, document.id, document.source⟩

/-- What is sent for a document, if it is accepted. -/
def item? (indexer : Indexer) (document : IndexDocument) : Option BulkItem :=
  match indexer.disposition document with
  | .accepted item => some item
  | .refused _ | .unrouted => none

/-! ## What is logged about a document -/

/-- The route that was found for a document. -/
def routeEvent (document : IndexDocument) (index : String) : Event :=
  ⟨.info, "Using index for document types",
    [("document_id", .string document.id), ("index", .string index),
      ("types", .string document.typesText)]⟩

/-- The routes that there are, for a document that found none. -/
def mappingEvents (indexer : Indexer) (document : IndexDocument) : List Event :=
  indexer.routing.classes.map fun route ↦
    ⟨.warn, "Index mapping",
      [("document_id", .string document.id), ("resource_type", .string route.resourceType),
        ("index", .string route.index)]⟩

/-- What is logged about a document before it is sent. -/
def events (indexer : Indexer) (document : IndexDocument) : List Event :=
  match indexer.disposition document with
  | .refused error =>
    [⟨.warn, "Caught classification error",
      [("document_id", .string document.id), ("error", .string error.message)]⟩]
  | .unrouted =>
    routeEvent document unclassified ::
      ⟨.warn, "No proper index for document",
        [("document_id", .string document.id), ("types", .string document.typesText)]⟩ ::
      indexer.mappingEvents document
  | .accepted item =>
    [routeEvent document item.index,
      ⟨.info, "Queuing document", [("document_id", .string document.id)]⟩]

/-! ## Runs -/

/-- Where a run stands between two documents. -/
structure Progress where
  stats : IndexingStats
  /-- The accepted documents that have not been sent, fewer than make a batch. -/
  pending : List BulkItem

/-- The start of a run. -/
def Progress.start : Progress := ⟨.zero, []⟩

/-- Counts the pending documents as sent. -/
def Progress.sent (progress : Progress) : Progress where
  stats :=
    { progress.stats with
      queued := progress.stats.queued + progress.pending.length
      flushes := progress.stats.flushes + 1 }
  pending := []

/-- What is logged about the answer to a bulk call. -/
def answerEvents : Answer → List Event
  | .ok response =>
    if (response.field? "errors").bind Json.bool? = some true then
      [⟨.warn, "Unexpected error response from client", [("response", .string response.compact)]⟩]
    else []
  | .error error => [⟨.warn, "Bulk request failed", [("error", .string error.message)]⟩]

variable {σ : Type}

/-- Sends the pending documents, with `context` as further fields of the log event. -/
def flush (engine : Engine σ) (context : List (String × Json)) (progress : Progress) :
    Run σ Progress := do
  Run.log .debug "Flushing batch" (context ++ [("operations", .nat (2 * progress.pending.length))])
  let answer ← Run.call engine (.bulk progress.pending)
  Run.logAll (answerEvents answer)
  return progress.sent

/-- Takes one document. -/
def step (indexer : Indexer) (engine : Engine σ) (progress : Progress) (document : IndexDocument) :
    Run σ Progress := do
  let stats := { progress.stats with visited := progress.stats.visited + 1 }
  Run.logAll (indexer.events document)
  match indexer.disposition document with
  | .refused _ => return ⟨{ stats with exceptions := stats.exceptions + 1 }, progress.pending⟩
  | .unrouted => return ⟨{ stats with skipped := stats.skipped + 1 }, progress.pending⟩
  | .accepted item =>
    let progress : Progress := ⟨stats, progress.pending ++ [item]⟩
    if progress.pending.length = indexer.batchSize then
      flush engine [("document_id", .string document.id)] progress
    else return progress

/-- Indexes documents in their order. -/
def run (indexer : Indexer) (engine : Engine σ) (documents : List IndexDocument) :
    Run σ IndexingStats := do
  let progress ← documents.foldlM (indexer.step engine) .start
  let progress ← if progress.pending.isEmpty then pure progress else flush engine [] progress
  Run.logAll [progress.stats.summary]
  return progress.stats

end Indexer

end ResourceSearch
