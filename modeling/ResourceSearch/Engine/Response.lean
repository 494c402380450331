import ResourceSearch.Engine

/-!
# Search responses

What a response to a search says. A response may have any shape: what is missing or malformed
counts as nothing found.
-/

namespace ResourceSearch

namespace Response

/-- The number of documents that a search found, in all pages. Older engines give it as a bare
number, newer ones inside an object. -/
def total (response : Json) : Nat :=
  match response.path? ["hits", "total"] with
  | some (.number n) => (Json.number n).nat?.getD 0
  | some total => ((total.field? "value").bind Json.nat?).getD 0
  | none => 0

/-- The hits on the page that was asked for. -/
def hits (response : Json) : List Json :=
  ((response.path? ["hits", "hits"]).bind Json.array?).getD []

/-- The first hit of a response that found anything. -/
def firstHit? (response : Json) : Option Json :=
  if total response = 0 then none else (hits response).head?

end Response

namespace Hit

/-- Where a hit says that its document is stored. -/
def index? (hit : Json) : Option String :=
  ((hit.field? "_index").bind Json.string?).filter (· ≠ "")

/-- The identifier that a hit gives its document. -/
def id? (hit : Json) : Option String :=
  (hit.field? "_id").bind Json.string?

/-- The document of a hit: the fields that are stored, with the hit's identifier as one more. -/
def document (hit : Json) : Json :=
  let source := ((hit.field? "_source").bind Json.dict?).getD ∅
  .ofDict <|
    match hit.field? "_id" with
    | some id => source.insert "id" id
    | none => source

end Hit

/-- The documents on a page, and the number of documents on all pages. -/
structure ResultSet where
  documents : List Json
  total : Nat

namespace ResultSet

def ofResponse (response : Json) : ResultSet :=
  ⟨(Response.hits response).map Hit.document, Response.total response⟩

/-- The identifiers of the documents. -/
def ids (results : ResultSet) : List String :=
  results.documents.filterMap fun document ↦ (document.field? "id").bind Json.string?

end ResultSet

end ResourceSearch
