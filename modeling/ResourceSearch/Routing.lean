import ResourceSearch.Dict

/-!
# Routing

Which index serves which class of resources. The entries of a routing table stand in order of
priority: of several types of one document the earliest entry decides. A query may also name its
target by the name of a structure of the host's user interface. What no entry covers belongs to
the unclassified index, which does not exist.
-/

namespace ResourceSearch

/-- One class of resources and the index that serves it. -/
structure Route where
  resourceType : String
  index : String
deriving DecidableEq, Repr

/-- The indices that serve the classes and structures of a host. -/
structure RoutingTable where
  /-- The entries for classes, in order of priority. -/
  classes : List Route
  /-- The indices that the structures of the user interface show. -/
  structures : Dict String String
  /-- The indices whose documents say who may read them. -/
  accessControlled : NameSet
deriving DecidableEq

/-- The index of what cannot be classified. -/
def unclassified : String := "unclassified"

def isUnclassified (index : String) : Bool :=
  index = unclassified

/-! ## The built-in indices and classes -/

namespace Index

def items : String := "items"
def tests : String := "tests"
def groups : String := "groups"
def deliveries : String := "deliveries"
def deliveryResults : String := "delivery-results"
def testTakers : String := "test-takers"
def assets : String := "assets"
def propertyList : String := "property-list"

end Index

namespace ResourceClass

def item : String := "http://www.tao.lu/Ontologies/TAOItem.rdf#Item"
def test : String := "http://www.tao.lu/Ontologies/TAOTest.rdf#Test"
def group : String := "http://www.tao.lu/Ontologies/TAOGroup.rdf#Group"
def delivery : String := "http://www.tao.lu/Ontologies/TAODelivery.rdf#Delivery"
def assembledDelivery : String :=
  "http://www.tao.lu/Ontologies/taoDeliveryRdf.rdf#AssembledDelivery"
def deliveryResult : String := "http://www.tao.lu/Ontologies/TAOResult.rdf#DeliveryResult"
def subject : String := "http://www.tao.lu/Ontologies/TAOSubject.rdf#Subject"
def media : String := "http://www.tao.lu/Ontologies/TAOMedia.rdf#Media"
def list : String := "http://www.tao.lu/Ontologies/TAO.rdf#List"

end ResourceClass

namespace RoutingTable

/-- The table that serves a host which brings none of its own. -/
def builtIn : RoutingTable where
  classes :=
    [⟨ResourceClass.item, Index.items⟩,
      ⟨ResourceClass.test, Index.tests⟩,
      ⟨ResourceClass.subject, Index.testTakers⟩,
      ⟨ResourceClass.group, Index.groups⟩,
      ⟨ResourceClass.delivery, Index.deliveries⟩,
      ⟨ResourceClass.assembledDelivery, Index.deliveries⟩,
      ⟨ResourceClass.deliveryResult, Index.deliveryResults⟩,
      ⟨ResourceClass.media, Index.assets⟩,
      ⟨ResourceClass.list, Index.propertyList⟩]
  structures := Dict.ofList
    [("results", Index.deliveryResults),
      ("delivery", Index.deliveries),
      ("groups", Index.groups),
      ("items", Index.items),
      ("tests", Index.tests),
      ("TestTaker", Index.testTakers),
      ("taoMediaManager", Index.assets),
      ("property-list", Index.propertyList)]
  accessControlled := NameSet.ofNames
    [Index.items, Index.tests, Index.groups, Index.testTakers, Index.assets]

/-- The table with these entries for classes and nothing else. -/
def ofClasses (classes : List Route) : RoutingTable :=
  ⟨classes, ∅, ∅⟩

/-- Adds the index that a structure shows. -/
def withStructure (table : RoutingTable) (name index : String) : RoutingTable :=
  { table with structures := table.structures.insert name index }

/-- Marks an index as one whose documents say who may read them. -/
def withAccessControl (table : RoutingTable) (index : String) : RoutingTable :=
  { table with accessControlled := table.accessControlled.insert index () }

/-! ## Looking up -/

/-- The index that serves a class. -/
def indexForClass? (table : RoutingTable) (type : String) : Option String :=
  (table.classes.find? (·.resourceType = type)).map (·.index)

/-- The index for a document with these types: that of the earliest entry for one of them. -/
def indexForTypes (table : RoutingTable) (types : List String) : String :=
  match table.classes.find? (·.resourceType ∈ types) with
  | some route => route.index
  | none => unclassified

/-- The index for a type, or else for the first of its ancestors that has an entry. -/
def indexForTypeOrAncestors (table : RoutingTable) (type : String) (ancestors : List String) :
    String :=
  ((type :: ancestors).findSome? table.indexForClass?).getD unclassified

/-- The index that a query for a structure or a class looks in. -/
def indexForStructure (table : RoutingTable) (name : String) : String :=
  ((table.structures.get? name).or (table.indexForClass? name)).getD unclassified

/-- Whether queries against an index are filtered by who is asking. -/
def isAccessControlled (table : RoutingTable) (index : String) : Bool :=
  table.accessControlled.contains index

/-- Whether a class has an entry of its own. -/
def hasClassSupport (table : RoutingTable) (type : String) : Bool :=
  (table.indexForClass? type).isSome

/-- The indices that exist, each once, in the order in which the table names them first. -/
def physicalIndices (table : RoutingTable) : List String :=
  ((table.classes.map (·.index) ++ table.structures.values).filter
    (fun index ↦ !isUnclassified index)).eraseDups

end RoutingTable

end ResourceSearch
