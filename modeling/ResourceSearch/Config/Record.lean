import ResourceSearch.Config.Basic
import ResourceSearch.Json.Record

/-!
# Configurations in JSON

A configuration is a record in which every field may be missing. It is written with its fields
in their declared order.
-/

namespace ResourceSearch

open Json (Tree)

/-! ## Routing tables -/

/-- The entry for a class that a value describes. -/
def Route.ofTree? (tree : Tree) : Option Route := do
  let record ← tree.record? ["resource_type", "index"]
  let resourceType ← record.required "resource_type" Tree.string?
  let index ← record.required "index" Tree.string?
  return ⟨resourceType, index⟩

def Route.toJson (route : Route) : Json :=
  .object [("resource_type", .string route.resourceType), ("index", .string route.index)]

namespace RoutingTable

/-- The routing table that a value describes. -/
def ofTree? (tree : Tree) : Option RoutingTable := do
  let record ← tree.record? ["classes", "structures", "access_controlled"]
  let classes ← record.required "classes" (Tree.list? Route.ofTree?)
  let structures ← record.withDefault "structures" (Tree.dict? Tree.string?) ∅
  let accessControlled ← record.withDefault "access_controlled" Tree.strings? []
  return ⟨classes, structures, .ofNames accessControlled⟩

def toJson (table : RoutingTable) : Json :=
  .object
    [("classes", .array (table.classes.map Route.toJson)),
      ("structures", .object (table.structures.entries.map fun (name, index) ↦
        (name, .string index))),
      ("access_controlled", .strings table.accessControlled.keys)]

end RoutingTable

/-! ## Settings -/

namespace Json.Tree

/-- A number of 32 bits. -/
def uint32? (tree : Tree) : Option UInt32 :=
  (tree.natBelow? UInt32.size).map Nat.toUInt32

/-- A number of 64 bits. -/
def uint64? (tree : Tree) : Option UInt64 :=
  (tree.natBelow? UInt64.size).map Nat.toUInt64

end Json.Tree

namespace Auth

/-- The authentication that a value describes: an object whose only field names the form. -/
def ofTree? : Tree → Option Auth
  | .object [(some "Basic", fields)] => do
    let record ← fields.record? ["username", "password"]
    let username ← record.required "username" Tree.string?
    let password ← record.required "password" Tree.string?
    return .basic username password
  | .object [(some "Bearer", fields)] => do
    let record ← fields.record? ["token"]
    let token ← record.required "token" Tree.string?
    return .bearer token
  | _ => none

def toJson : Auth → Json
  | basic username password =>
    .object [("Basic", .object
      [("username", .string username), ("password", .string password)])]
  | bearer token => .object [("Bearer", .object [("token", .string token)])]

end Auth

namespace Autocomplete

/-- The bounds that a value describes. -/
def ofTree? (tree : Tree) : Option Autocomplete := do
  let default : Autocomplete := {}
  let record ← tree.record? ["min_gram", "max_gram"]
  let minGram ← record.withDefault "min_gram" Tree.uint32? default.minGram
  let maxGram ← record.withDefault "max_gram" Tree.uint32? default.maxGram
  return ⟨minGram, maxGram⟩

def toJson (autocomplete : Autocomplete) : Json :=
  .object
    [("min_gram", .nat autocomplete.minGram.toNat), ("max_gram", .nat autocomplete.maxGram.toNat)]

end Autocomplete

namespace Config

/-- The names of the settings, in their declared order. -/
def fieldNames : List String :=
  ["hosts", "auth", "request_timeout_ms", "disable_certificate_validation", "index_file",
    "batch_size", "number_of_shards", "number_of_replicas", "autocomplete", "routing"]

/-- The configuration with the known fields of a record. -/
def ofRecord? (record : Json.Record) : Option Config := do
  let default : Config := {}
  let hosts ← record.withDefault "hosts" Tree.strings? default.hosts
  let auth ← record.optional "auth" Auth.ofTree?
  let requestTimeout ←
    record.withDefault "request_timeout_ms" Tree.uint64? default.requestTimeout
  let disableCertificateValidation ←
    record.withDefault "disable_certificate_validation" Tree.bool?
      default.disableCertificateValidation
  let indexFile ← record.optional "index_file" Tree.string?
  let batchSize ← record.withDefault "batch_size" Tree.uint64? default.batchSize
  let numberOfShards ← record.withDefault "number_of_shards" Tree.uint32? default.numberOfShards
  let numberOfReplicas ←
    record.withDefault "number_of_replicas" Tree.uint32? default.numberOfReplicas
  let autocomplete ← record.withDefault "autocomplete" Autocomplete.ofTree? default.autocomplete
  let routing ← record.withDefault "routing" RoutingTable.ofTree? default.routing
  return ⟨hosts, auth, requestTimeout, disableCertificateValidation, indexFile, batchSize,
    numberOfShards, numberOfReplicas, autocomplete, routing⟩

/-- The configuration that a value describes. -/
def ofTree? (tree : Tree) : Option Config :=
  (tree.record? fieldNames).bind ofRecord?

def toJson (config : Config) : Json :=
  .object
    [("hosts", .strings config.hosts),
      ("auth", .ofOption Auth.toJson config.auth),
      ("request_timeout_ms", .nat config.requestTimeout.toNat),
      ("disable_certificate_validation", .bool config.disableCertificateValidation),
      ("index_file", .ofOption .string config.indexFile),
      ("batch_size", .nat config.batchSize.toNat),
      ("number_of_shards", .nat config.numberOfShards.toNat),
      ("number_of_replicas", .nat config.numberOfReplicas.toNat),
      ("autocomplete", config.autocomplete.toJson),
      ("routing", config.routing.toJson)]

end Config

end ResourceSearch
