import ResourceSearch.Document

/-!
# Resources

A resource of a host's object model, as far as it is indexed. A host that exports its resources
as data hands them over as snapshots.
-/

namespace ResourceSearch

/-- A resource, seen through what the host tells about it. -/
structure Resource where
  /-- The identifier, which becomes that of the document. -/
  uri : String
  label : String
  /-- The types, most specific first. -/
  types : List String
  /-- The label of the class that the resource is an instance of. -/
  classLabel : String
  /-- The first value of a property, if it has one. -/
  propertyValue : String → Option String
  comment : String := ""
  /-- The ancestors of the resource's class. -/
  parentClasses : List String := []
  /-- The serialized content, for resources that have one. -/
  content : Option String := none
  /-- The properties that users have defined, under the names of their fields. -/
  dynamicProperties : Dict String Json := ∅
  /-- The principals that may read the resource. -/
  readAccess : List String := []

/-- A resource held as data. -/
structure Snapshot where
  uri : String
  label : String
  comment : String
  types : List String
  classLabel : String
  parentClasses : List String
  properties : Dict String Json
  content : Option String
  dynamicProperties : Dict String Json
  readAccess : List String

namespace Snapshot

/-- A property's value as text: a string as it is, anything else as JSON. -/
def valueText : Json → String
  | .string value => value
  | other => other.compact

/-- The first value of a property. A property that is `null` or an empty list has none. -/
def propertyValue (snapshot : Snapshot) (name : String) : Option String :=
  match snapshot.properties.get? name with
  | none | some .null => none
  | some (.array values) => values.head?.map valueText
  | some value => some (valueText value)

/-- The resource that a snapshot shows. -/
def resource (snapshot : Snapshot) : Resource where
  uri := snapshot.uri
  label := snapshot.label
  types := snapshot.types
  classLabel := snapshot.classLabel
  propertyValue := snapshot.propertyValue
  comment := snapshot.comment
  parentClasses := snapshot.parentClasses
  content := snapshot.content
  dynamicProperties := snapshot.dynamicProperties
  readAccess := snapshot.readAccess

/-- The resource of a host that tells only what it has to about a snapshot. -/
def minimalResource (snapshot : Snapshot) : Resource where
  uri := snapshot.uri
  label := snapshot.label
  types := snapshot.types
  classLabel := snapshot.classLabel
  propertyValue := snapshot.propertyValue

/-- The snapshot that a value describes. -/
def ofTree? (tree : Json.Tree) : Option Snapshot := do
  let record ← tree.record?
    ["uri", "label", "comment", "types", "class_label", "parent_classes", "properties", "content",
      "dynamic_properties", "read_access"]
  let uri ← record.required "uri" Json.Tree.string?
  let label ← record.withDefault "label" Json.Tree.string? ""
  let comment ← record.withDefault "comment" Json.Tree.string? ""
  let types ← record.withDefault "types" Json.Tree.strings? []
  let classLabel ← record.withDefault "class_label" Json.Tree.string? ""
  let parentClasses ← record.withDefault "parent_classes" Json.Tree.strings? []
  let properties ← record.withDefault "properties" IndexDocument.fields? ∅
  let content ← record.optional "content" Json.Tree.string?
  let dynamicProperties ← record.withDefault "dynamic_properties" IndexDocument.fields? ∅
  let readAccess ← record.withDefault "read_access" Json.Tree.strings? []
  return ⟨uri, label, comment, types, classLabel, parentClasses, properties, content,
    dynamicProperties, readAccess⟩

end Snapshot

end ResourceSearch
