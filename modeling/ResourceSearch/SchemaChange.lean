import ResourceSearch.Document
import ResourceSearch.Engine
import ResourceSearch.Routing
import ResourceSearch.Script

/-!
# Schema changes

Properties are renamed, overwritten and removed in the documents that are already indexed. A
change is one script that the engine runs over all documents of a type, in the index that serves
the type or the nearest of its ancestors. A change without a complete description, or for a type
that no index serves, does nothing; a change that the engine does not carry out is never passed
over in silence.
-/

namespace ResourceSearch

/-- A property that gets another name. -/
structure PropertyRename where
  oldName : String
  newName : String
  /-- The type, or the resource, whose documents have the property. -/
  resourceType : String
  parentClasses : List String
deriving DecidableEq, Repr

/-- A property whose values are overwritten. -/
structure PropertyAssignment where
  name : String
  values : List String
  resourceType : String
  parentClasses : List String
deriving DecidableEq, Repr

/-- A property that goes away. -/
structure PropertyRemoval where
  name : String
  resourceType : String
  parentClasses : List String
deriving DecidableEq, Repr

inductive SchemaChange where
  | rename (renames : List PropertyRename)
  | assign (assignment : PropertyAssignment)
  | remove (removal : PropertyRemoval)
deriving DecidableEq, Repr

/-- What a change asks of the engine: a script, for the documents of a type. -/
structure ScriptedUpdate where
  resourceType : String
  parentClasses : List String
  script : Script
deriving DecidableEq, Repr

/-- A change that the engine did not carry out. -/
structure SchemaChangeError where
  change : SchemaChange
  /-- What was asked of the engine. -/
  update : ScriptedUpdate
  cause : EngineError

/-- Whether a rename says all it has to say. -/
def PropertyRename.isComplete (rename : PropertyRename) : Bool :=
  rename.oldName ≠ "" && rename.newName ≠ "" && rename.resourceType ≠ ""

/-- The script that renames properties: it copies them all before it removes any. -/
def renameScript (renames : List PropertyRename) : Script :=
  (renames.map fun rename ↦ .copy rename.oldName rename.newName) ++
    renames.map fun rename ↦ .remove rename.oldName

namespace SchemaChange

/-- What a change asks of the engine, if it asks for anything. The last complete rename decides
about the type. -/
def update? : SchemaChange → Option ScriptedUpdate
  | rename renames =>
    let complete := renames.filter PropertyRename.isComplete
    complete.getLast?.map fun last ↦
      ⟨last.resourceType, last.parentClasses, renameScript complete⟩
  | assign assignment =>
    some ⟨assignment.resourceType, assignment.parentClasses,
      [.assign assignment.name assignment.values]⟩
  | remove removal =>
    if removal.name = "" || removal.resourceType = "" then none
    else some ⟨removal.resourceType, removal.parentClasses, [.remove removal.name]⟩

/-- What a change is called when it is passed over. -/
def noun : SchemaChange → String
  | rename _ => "rename"
  | assign _ => "revalue"
  | remove _ => "removal"

/-- What a change does to properties, as its failure tells. -/
def deed : SchemaChange → String
  | rename _ | assign _ => "update properties"
  | remove _ => "remove property"

end SchemaChange

namespace SchemaChangeError

/-- The script that was sent. -/
def script (error : SchemaChangeError) : String :=
  error.update.script.text

def message (error : SchemaChangeError) : String :=
  "failed to " ++ error.change.deed ++ " by script \x60" ++ error.script ++ "\x60 for type " ++
    error.update.resourceType ++ ": " ++ error.cause.message

end SchemaChangeError

namespace ScriptedUpdate

/-- The index that serves the type of an update. -/
def index (update : ScriptedUpdate) (routing : RoutingTable) : String :=
  routing.indexForTypeOrAncestors update.resourceType update.parentClasses

/-- The request for an update: the script, for the documents that have the type or the
identifier. -/
def request (update : ScriptedUpdate) (routing : RoutingTable) : UpdateRequest where
  index := update.index routing
  body := .object
    [("query", .object
      [("multi_match", .object
        [("fields", .strings [typeField, "_id"]), ("query", .string update.resourceType)])]),
      ("script", .object [("source", .string update.script.text)])]
  conflictsProceed := true
  waitForCompletion := true

/-- The fields that log events about an update have in common. -/
def context (update : ScriptedUpdate) (routing : RoutingTable) : List (String × Json) :=
  [("index", .string (update.index routing)), ("resource_type", .string update.resourceType)]

end ScriptedUpdate

variable {σ : Type}

/-- Carries out a change in the stored documents. -/
def SchemaChange.run (change : SchemaChange) (routing : RoutingTable) (engine : Engine σ) :
    Run σ (Except SchemaChangeError Unit) := do
  match change.update? with
  | none => return .ok ()
  | some update =>
    if isUnclassified (update.index routing) then
      Run.log .debug ("Skipping " ++ change.noun ++ " for unrouted type")
        [("resource_type", .string update.resourceType)]
      return .ok ()
    else
      Run.log .debug "Updating documents by query"
        (update.context routing ++ [("script", .string update.script.text)])
      match ← Run.call engine (.updateByQuery (update.request routing)) with
      | .ok _ => return .ok ()
      | .error cause =>
        Run.log .error "Update by query failed"
          (update.context routing ++ [("error", .string cause.message)])
        return .error ⟨change, update, cause⟩

/-! ## Changes in JSON -/

/-- The rename that a value describes. -/
def PropertyRename.ofTree? (tree : Json.Tree) : Option PropertyRename := do
  let record ← tree.record? ["old_name", "new_name", "resource_type", "parent_classes"]
  let oldName ← record.required "old_name" Json.Tree.string?
  let newName ← record.required "new_name" Json.Tree.string?
  let resourceType ← record.required "resource_type" Json.Tree.string?
  let parentClasses ← record.withDefault "parent_classes" Json.Tree.strings? []
  return ⟨oldName, newName, resourceType, parentClasses⟩

/-- The removal that a value describes. -/
def PropertyRemoval.ofTree? (tree : Json.Tree) : Option PropertyRemoval := do
  let record ← tree.record? ["name", "resource_type", "parent_classes"]
  let name ← record.required "name" Json.Tree.string?
  let resourceType ← record.required "resource_type" Json.Tree.string?
  let parentClasses ← record.withDefault "parent_classes" Json.Tree.strings? []
  return ⟨name, resourceType, parentClasses⟩

end ResourceSearch
