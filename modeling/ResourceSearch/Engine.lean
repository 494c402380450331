import ResourceSearch.Event
import ResourceSearch.Files
import ResourceSearch.Json.Reader

/-!
# The search engine

What the service asks of a search engine, and what a run of the service leaves behind. An engine
is any machine that answers calls out of a state of its own: one that plays back a list of
answers, one that keeps documents, one that fails. A run records its calls and its log events in
order, and reads and writes files.
-/

namespace ResourceSearch

/-! ## Requests -/

/-- A search in one index, or in all of them. -/
structure SearchRequest where
  index : Option String
  /-- How many hits to leave out at the start. -/
  offset : Option Nat
  /-- How many hits to return. -/
  size : Option Nat
  body : Json
  /-- Whether a missing index counts as one without documents. -/
  ignoreNotFound : Bool

/-- A change by a script to all documents that a query finds. -/
structure UpdateRequest where
  index : String
  body : Json
  /-- Whether a document that changed meanwhile is passed over. -/
  conflictsProceed : Bool
  waitForCompletion : Bool

/-- An index to be created, with its mappings and settings. -/
structure IndexDefinition where
  index : String
  body : Json

/-- A document to be written: its address and its fields. -/
structure BulkItem where
  index : String
  id : String
  source : Dict String Json

/-- The two lines of a bulk body for a document: the action, and the fields. -/
def BulkItem.lines (item : BulkItem) : List Json :=
  [.object [("index", .object [("_id", .string item.id), ("_index", .string item.index)])],
    .ofDict item.source]

/-- The body of a bulk call, a pair of lines for each document. -/
def bulkBody (items : List BulkItem) : List Json :=
  items.flatMap BulkItem.lines

inductive Call where
  | search (request : SearchRequest)
  | bulk (items : List BulkItem)
  | delete (index id : String)
  | updateByQuery (request : UpdateRequest)
  | createIndex (definition : IndexDefinition)
  | deleteIndices (indices : List String)

/-! ## Answers -/

/-- Why an engine did not do what it was asked. -/
inductive EngineError where
  /-- The index or document does not exist. -/
  | notFound (what : String)
  /-- The engine answered with a status that means failure. -/
  | rejected (status : Nat) (body : String)
  /-- No answer came back. -/
  | transport (failure : String)
deriving DecidableEq, Repr

namespace EngineError

def message : EngineError → String
  | notFound what => "not found: " ++ what
  | rejected status body => "request rejected with status " ++ toString status ++ ": " ++ body
  | transport failure => "transport failure: " ++ failure

/-- The status of the engine's answer, if there was one. -/
def status? : EngineError → Option Nat
  | notFound _ => some 404
  | rejected status _ => some status
  | transport _ => none

/-- The reason that the body of a rejection gives. -/
def reason? : EngineError → Option String
  | rejected _ body =>
    (Json.ofText? body).bind fun json ↦ (json.path? ["error", "reason"]).bind Json.string?
  | _ => none

end EngineError

/-- What comes back from a call. -/
abbrev Answer := Except EngineError Json

/-- A machine that answers calls. -/
structure Engine (σ : Type) where
  answer : Call → σ → Answer × σ

/-! ## Runs -/

/-- What a run acts on, and what it leaves behind. -/
structure World (σ : Type) where
  engine : σ
  files : Files
  callLog : Array Call
  eventLog : Array Event

namespace World

variable {σ : Type}

/-- The world before a run: nothing called, nothing logged. -/
def start (engine : σ) (files : Files) : World σ :=
  ⟨engine, files, #[], #[]⟩

/-- The calls that were made, in order. -/
def calls (world : World σ) : List Call := world.callLog.toList

/-- The events that were logged, in order. -/
def events (world : World σ) : List Event := world.eventLog.toList

end World

/-- An operation of the service. -/
abbrev Run (σ : Type) := StateM (World σ)

namespace Run

variable {σ : Type}

/-- Calls the engine. -/
def call (engine : Engine σ) (c : Call) : Run σ Answer := fun world ↦
  let (answer, state) := engine.answer c world.engine
  (answer, { world with engine := state, callLog := world.callLog.push c })

/-- Logs events in their order. -/
def logAll (events : List Event) : Run σ Unit :=
  modify fun world ↦ { world with eventLog := world.eventLog ++ events }

/-- Logs an event. -/
def log (level : Level) (message : String) (fields : List (String × Json)) : Run σ Unit :=
  logAll [⟨level, message, fields⟩]

/-- The text of a file. -/
def readFile? (path : String) : Run σ (Option String) := do
  return (← get).files.read? path

/-- Writes a file; tells whether that was possible. -/
def writeFile (path text : String) : Run σ Bool := fun world ↦
  match world.files.write? path text with
  | some files => (true, { world with files := files })
  | none => (false, world)

/-! ### What operations leave behind -/

theorem bind_apply {α β : Type} (run : Run σ α) (next : α → Run σ β) (world : World σ) :
    (run >>= next) world = next (run world).1 (run world).2 := rfl

theorem pure_apply {α : Type} (a : α) (world : World σ) : (pure a : Run σ α) world = (a, world) :=
  rfl

@[simp] theorem calls_call (engine : Engine σ) (c : Call) (world : World σ) :
    (call engine c world).2.calls = world.calls ++ [c] := by
  simp [call, World.calls]

@[simp] theorem calls_logAll (events : List Event) (world : World σ) :
    (logAll events world).2.calls = world.calls := rfl

end Run

end ResourceSearch
