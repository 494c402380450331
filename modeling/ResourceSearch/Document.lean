import ResourceSearch.Json.Printer
import ResourceSearch.Json.Record

/-!
# Index documents

What is indexed: an identifier and three groups of fields, which are stored as one. A later group
takes precedence: what is written about access cannot be overridden by a property, nor a property
by the body. The body names the type or types of the document, which decide where it is stored.
-/

namespace ResourceSearch

/-- A document to be indexed. -/
structure IndexDocument where
  id : String
  /-- The attributes that every resource of its kind has. -/
  body : Dict String Json
  /-- The properties that the host's users have defined. -/
  dynamicProperties : Dict String Json
  /-- Who may read the document. -/
  accessProperties : Dict String Json

/-- The attribute that holds the types of a document. -/
def typeField : String := "type"

/-- Why a document has no type. -/
inductive ClassificationError where
  /-- The types are absent, or all of them empty. -/
  | missingType (documentId : String)
  /-- The types are neither a string nor a list of strings. -/
  | invalidType (documentId : String)
deriving DecidableEq, Repr

namespace ClassificationError

def documentId : ClassificationError → String
  | missingType id => id
  | invalidType id => id

def message : ClassificationError → String
  | missingType id => "type property is undefined on document " ++ id
  | invalidType id =>
    "type property of document " ++ id ++ " is not a type identifier or a list of them"

end ClassificationError

namespace IndexDocument

/-- The strings of a list, if it holds nothing else. -/
def strings? : List Json → Option (List String)
  | [] => some []
  | item :: items =>
    match item.string?, strings? items with
    | some s, some rest => some (s :: rest)
    | _, _ => none

/-- The types of a document, at least one of them not empty. -/
def types (document : IndexDocument) : Except ClassificationError (List String) :=
  match document.body.get? typeField with
  | none | some .null => .error (.missingType document.id)
  | some (.string type) => named [type]
  | some (.array items) =>
    match strings? items with
    | some types => named types
    | none => .error (.invalidType document.id)
  | some _ => .error (.invalidType document.id)
where
  /-- Refuses types that are all empty. -/
  named (types : List String) : Except ClassificationError (List String) :=
    if types.all String.isEmpty then .error (.missingType document.id) else .ok types

/-- The types of a document as messages show them. -/
def typesText (document : IndexDocument) : String :=
  match document.body.get? typeField with
  | some value => value.compact
  | none => "null"

/-- What is stored for a document. -/
def source (document : IndexDocument) : Dict String Json :=
  (document.body.insertAll document.dynamicProperties.entries).insertAll
    document.accessProperties.entries

/-! ## Documents in JSON -/

/-- An object with any fields. -/
def fields? (tree : Json.Tree) : Option (Dict String Json) :=
  tree.toJson?.bind Json.dict?

/-- The document that a value describes. -/
def ofTree? (tree : Json.Tree) : Option IndexDocument := do
  let record ← tree.record? ["id", "body", "dynamic_properties", "access_properties"]
  let id ← record.required "id" Json.Tree.string?
  let body ← record.required "body" fields?
  let dynamicProperties ← record.withDefault "dynamic_properties" fields? ∅
  let accessProperties ← record.withDefault "access_properties" fields? ∅
  return ⟨id, body, dynamicProperties, accessProperties⟩

def toJson (document : IndexDocument) : Json :=
  .object
    [("access_properties", .ofDict document.accessProperties),
      ("body", .ofDict document.body),
      ("dynamic_properties", .ofDict document.dynamicProperties),
      ("id", .string document.id)]

end IndexDocument

end ResourceSearch
