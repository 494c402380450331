import ResourceSearch.Service

/-!
# Diagnostics

One-line descriptions of a service and its parts, as they stand in diagnostic output. A record is
described by its name and its fields between braces; two dots stand for fields that are left out.
-/

namespace ResourceSearch.Diagnostics

open Text (quoted)

/-! ## Shapes -/

/-- Descriptions between brackets, separated by commas. -/
def listed (items : List String) : String :=
  "[" ++ ", ".intercalate items ++ "]"

/-- Descriptions between braces, separated by commas. -/
def braced (items : List String) : String :=
  "\x7b" ++ ", ".intercalate items ++ "\x7d"

/-- A field of a record: its name and the description of its value. -/
def field (name value : String) : String :=
  name ++ ": " ++ value

/-- A record with some fields, of which others may be left out. -/
def record (name : String) (fields : List String) (leavesOut : Bool) : String :=
  name ++ " \x7b " ++ ", ".intercalate (fields ++ if leavesOut then [".."] else []) ++ " \x7d"

/-- A value that may be missing. -/
def optional {α : Type} (describe : α → String) : Option α → String
  | none => "None"
  | some value => "Some(" ++ describe value ++ ")"

def truth (value : Bool) : String :=
  if value then "true" else "false"

/-! ## Parts of a service -/

def route (route : Route) : String :=
  record "RouteEntry"
    [field "resource_type" (quoted route.resourceType), field "index" (quoted route.index)] false

def routing (table : RoutingTable) : String :=
  record "RoutingTable"
    [field "classes" (listed (table.classes.map route)),
      field "structures" (braced (table.structures.entries.map fun (name, index) ↦
        field (quoted name) (quoted index))),
      field "access_controlled" (braced (table.accessControlled.keys.map quoted))] false

def auth : Auth → String
  | .basic username password =>
    record "Basic" [field "username" (quoted username), field "password" (quoted password)] false
  | .bearer token => record "Bearer" [field "token" (quoted token)] false

def autocomplete (autocomplete : Autocomplete) : String :=
  record "AutocompleteSettings"
    [field "min_gram" (toString autocomplete.minGram.toNat),
      field "max_gram" (toString autocomplete.maxGram.toNat)] false

def config (config : Config) : String :=
  record "SearchConfig"
    [field "hosts" (listed (config.hosts.map quoted)),
      field "auth" (optional auth config.auth),
      field "request_timeout_ms" (toString config.requestTimeout.toNat),
      field "disable_certificate_validation" (truth config.disableCertificateValidation),
      field "index_file" (optional quoted config.indexFile),
      field "batch_size" (toString config.batchSize.toNat),
      field "number_of_shards" (toString config.numberOfShards.toNat),
      field "number_of_replicas" (toString config.numberOfReplicas.toNat),
      field "autocomplete" (autocomplete config.autocomplete),
      field "routing" (routing config.routing)] false

def access (access : AccessControl) : String :=
  record "AccessControl"
    [field "reverse_lookup" (truth access.permissions.supportsReverseLookup)] true

def compiler (compiler : Query.Compiler) : String :=
  record "QueryCompiler"
    [field "routing" (routing compiler.routing),
      field "access" (optional access compiler.access)] false

def indexer (indexer : Indexer) : String :=
  record "BatchIndexer" [field "batch_size" (toString indexer.batchSize)] true

/-- The part of a service that changes schemas knows only the routing table. -/
def updater (table : RoutingTable) : String :=
  record "IndexUpdater" [field "routing" (routing table)] true

def service {σ : Type} (service : Service σ) : String :=
  record "SearchService"
    [field "config" (config service.config), field "compiler" (compiler service.compiler)] true

end ResourceSearch.Diagnostics
