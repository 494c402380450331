import ResourceSearch.Config.Basic
import ResourceSearch.Engine
import ResourceSearch.Json.Record

/-!
# Definition files

A host may bring the definitions of its indices in a file, in one of two layouts: a list of
records with a name and a body, or an object with a record under each name. A file is read as a
whole before either layout is tried, so that a number too large anywhere in it makes it unusable;
a file with a definition that has no name is refused as a whole.
-/

namespace ResourceSearch

open Json (Tree)

/-- The definition that a value describes. -/
def IndexDefinition.ofTree? (tree : Tree) : Option IndexDefinition := do
  let record ← tree.record? ["index", "body"]
  let index ← record.required "index" Tree.string?
  let body ← record.withDefault "body" Tree.toJson? .null
  return ⟨index, body⟩

def IndexDefinition.toJson (definition : IndexDefinition) : Json :=
  .object [("body", definition.body), ("index", .string definition.index)]

namespace DefinitionFile

/-- What stands under a name: a body, and perhaps another name. -/
def entry? (tree : Tree) : Option (Option String × Json) := do
  let record ← tree.record? ["index", "body"]
  let index ← record.optional "index" Tree.string?
  let body ← record.withDefault "body" Tree.toJson? .null
  return (index, body)

/-- The definitions of the layout by name, in the order of the names. -/
def keyed? (tree : Tree) : Option (List IndexDefinition) :=
  (tree.dict? entry?).map fun entries ↦
    entries.entries.map fun (name, index, body) ↦ ⟨index.getD name, body⟩

/-- The definitions that a tree describes. -/
def ofTree? (tree : Tree) : Option (List IndexDefinition) :=
  if tree.toJson?.isNone then none
  else (tree.list? IndexDefinition.ofTree?).or (keyed? tree)

/-- The definitions in a file with this text. -/
def ofText (path text : String) : Except ConfigError (List IndexDefinition) :=
  match (Tree.ofText? text).bind ofTree? with
  | none => .error (.malformed path)
  | some definitions =>
    match definitions.findIdx? (·.index = "") with
    | some i =>
      .error (.invalid ("index definition #" ++ toString i ++ " in " ++ path ++
        " has no index name"))
    | none => .ok definitions

variable {σ : Type}

/-- Loads the definitions in a file. -/
def load (path : String) : Run σ (Except ConfigError (List IndexDefinition)) := do
  match ← Run.readFile? path with
  | none => return .error (.inaccessible path)
  | some text =>
    match ofText path text with
    | .error error => return .error error
    | .ok definitions =>
      Run.log .debug "Loaded index definitions"
        [("path", .string path), ("count", .nat definitions.length)]
      return .ok definitions

end DefinitionFile

end ResourceSearch
