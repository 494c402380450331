import ResourceSearch.Access
import ResourceSearch.Engine
import ResourceSearch.Json.Printer
import ResourceSearch.Query.Condition
import ResourceSearch.Query.Sort

/-!
# Compiling queries

The search request that a user's query stands for. The target decides which index is searched and
how blocks become conditions; where the index is filtered by reader, the clause for the session's
user is one more condition, after all others.
-/

namespace ResourceSearch.Query

/-- The arguments of a user's query. -/
structure UserQuery where
  text : String
  /-- The structure or the class to search. -/
  resourceType : String
  offset : Nat
  limit : Nat
  sort : String
  direction : SortDirection
deriving DecidableEq, Repr

/-- What compiling a query needs to know about the host. -/
structure Compiler where
  routing : RoutingTable
  /-- Without access control no query is filtered. -/
  access : Option AccessControl

/-- The part of a request body that holds the query text. -/
def queryText (text : String) : Json :=
  .object [("query_string", .object [("default_operator", .string "AND"), ("query", .string text)])]

/-- The query text of a request body. -/
def queryTextOf? (body : Json) : Option String :=
  (body.path? ["query", "query_string", "query"]).bind Json.string?

namespace Compiler

/-- The index that a query searches. -/
def index (compiler : Compiler) (query : UserQuery) : String :=
  compiler.routing.indexForStructure query.resourceType

/-- The search in an index for what satisfies some conditions, paged and sorted as a query wants. -/
def request (query : UserQuery) (index : String) (conditions : List String) : SearchRequest where
  index := some index
  offset := some query.offset
  size := some query.limit
  body := .object
    [("query", queryText (conjunction conditions)),
      ("sort", .object
        [(sortField query.sort, .object [("order", .string query.direction.name)])])]
  ignoreNotFound := true

/-! ### Compiling in a session -/

section

variable {τ : Type} (routing : RoutingTable) (session? : Option (UserSession τ))

/-- The condition on the reader, where there is one. -/
def accessConditionsIn (index : String) : StateM τ (List String) :=
  match session? with
  | none => return []
  | some session => do
    if ← session.filters routing index then return [session.user.accessClause] else return []

/-- The conditions that a query stands for. -/
def conditionsIn (query : UserQuery) : StateM τ (List String) := do
  let index := routing.indexForStructure query.resourceType
  return Query.conditions index (parse query.text) ++ (← accessConditionsIn routing session? index)

/-- The request that a query stands for. Without a session no query is filtered. -/
def compileIn (query : UserQuery) : StateM τ SearchRequest := do
  let conditions ← conditionsIn routing session? query
  return request query (routing.indexForStructure query.resourceType) conditions

end

/-! ### Compiling -/

/-- The session whose queries are compiled. -/
def session? (compiler : Compiler) : Option (UserSession (List (List String))) :=
  compiler.access.map AccessControl.session

/-- The conditions that a query stands for. -/
def conditions (compiler : Compiler) (query : UserQuery) : List String :=
  ((conditionsIn compiler.routing compiler.session? query).run []).1

/-- The request that a query stands for. -/
def compile (compiler : Compiler) (query : UserQuery) : SearchRequest :=
  ((compileIn compiler.routing compiler.session? query).run []).1

/-- The request for a query in the engine's own syntax. -/
def compileRaw (index text : String) (offset limit : Nat) : SearchRequest where
  index := some index
  offset := none
  size := none
  body := .object
    [("from", .nat offset), ("query", queryText text), ("size", .nat limit), ("sort", .array [])]
  ignoreNotFound := false

/-- What is logged about a query that has been compiled. -/
def events (compiler : Compiler) (query : UserQuery) : List Event :=
  [⟨.debug, "Input query",
      [("query", .string query.text), ("resource_type", .string query.resourceType)]⟩,
    ⟨.debug, "Compiled query",
      [("index", .string (compiler.index query)),
        ("body", .string (compiler.compile query).body.compact),
        ("from", .nat query.offset), ("size", .nat query.limit)]⟩]

end Compiler

end ResourceSearch.Query
