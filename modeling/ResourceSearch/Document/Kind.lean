import ResourceSearch.Access
import ResourceSearch.Resource

/-!
# Kinds of documents

Which attributes of a resource go into its document. The kind is chosen by the type under which a
resource is indexed: its root type if one is given, else its first type. A resource without an
identifier or without a type has no document.
-/

namespace ResourceSearch

/-- The kinds of documents. -/
inductive DocumentKind where
  /-- Tests, groups, deliveries and delivery results: with ancestors, properties and readers. -/
  | generic
  /-- Items: with their content and model. -/
  | item
  /-- Test takers: with their login and properties. -/
  | testTaker
  /-- Everything else: with a comment. -/
  | unclassified
deriving DecidableEq, Repr

/-- The property that holds the model of an item. -/
def itemModelProperty : String := "http://www.tao.lu/Ontologies/TAOItem.rdf#ItemModel"

/-- The property that holds the login of a user. -/
def loginProperty : String := "http://www.tao.lu/Ontologies/generis.rdf#login"

namespace Resource

/-- The first type that is not empty. -/
def firstType? (resource : Resource) : Option String :=
  resource.types.find? (· ≠ "")

/-- The root type, if it is not empty, or else all types of the resource. -/
def typeList (resource : Resource) (rootType : Option String) : List String :=
  match rootType with
  | some root => if root = "" then resource.types else [root]
  | none => resource.types

/-- Whether a resource has an identifier, and a type of its own or as root. -/
def isIndexable (resource : Resource) (rootType : Option String) : Bool :=
  resource.uri ≠ "" &&
    ((match rootType with
      | some root => root ≠ ""
      | none => false) ||
      resource.types.any (· ≠ ""))

end Resource

namespace DocumentKind

def name : DocumentKind → String
  | generic => "Generic"
  | item => "Item"
  | testTaker => "TestTaker"
  | unclassified => "Unclassified"

/-- The kind of the resources of a type. -/
def ofType (type : String) : DocumentKind :=
  if type = ResourceClass.item then .item
  else if type = ResourceClass.subject then .testTaker
  else if type ∈ [ResourceClass.test, ResourceClass.group, ResourceClass.delivery,
      ResourceClass.deliveryResult] then .generic
  else .unclassified

/-- The body of a resource's document; only some kinds store the root type. -/
def body (kind : DocumentKind) (resource : Resource) (rootType : Option String) :
    Dict String Json :=
  let types := Json.strings (resource.typeList rootType)
  let firstType := Json.ofOption .string resource.firstType?
  let named := [("class", Json.string resource.classLabel), ("label", .string resource.label)]
  .ofList <| named ++
    match kind with
    | generic =>
      (typeField, types) ::
        if resource.parentClasses.isEmpty then []
        else [("parent_classes", .strings resource.parentClasses)]
    | item =>
      [("content", .string (resource.content.getD "")),
        ("model", .ofOption .string (resource.propertyValue itemModelProperty)),
        (typeField, firstType)]
    | testTaker =>
      [("login", .string ((resource.propertyValue loginProperty).getD "")), (typeField, types)]
    | unclassified => [("comment", .string resource.comment), (typeField, firstType)]

/-- The properties that a kind stores. -/
def dynamicProperties (kind : DocumentKind) (resource : Resource) : Dict String Json :=
  match kind with
  | generic | testTaker => resource.dynamicProperties
  | item | unclassified => ∅

/-- The readers that a kind stores, if there are any. -/
def accessProperties (kind : DocumentKind) (resource : Resource) : Dict String Json :=
  match kind with
  | generic =>
    if resource.readAccess.isEmpty then ∅
    else .ofList [(readAccessField, .strings resource.readAccess)]
  | item | testTaker | unclassified => ∅

/-- Whether a kind can make a document: where the root type is not stored, it is no type. -/
def accepts (kind : DocumentKind) (resource : Resource) (rootType : Option String) : Bool :=
  match kind with
  | generic | testTaker => resource.isIndexable rootType
  | item | unclassified => resource.isIndexable none

/-- The document of a resource, if it can be indexed. -/
def document? (kind : DocumentKind) (resource : Resource) (rootType : Option String) :
    Option IndexDocument :=
  if kind.accepts resource rootType then
    some ⟨resource.uri, kind.body resource rootType, kind.dynamicProperties resource,
      kind.accessProperties resource⟩
  else none

end DocumentKind

/-- The document of a resource, of the kind for its root type or for its first type. -/
def Resource.document? (resource : Resource) (rootType : Option String) : Option IndexDocument :=
  let selector := rootType.getD (resource.types.head?.getD "")
  (DocumentKind.ofType selector).document? resource rootType

end ResourceSearch
