import ResourceSearch.Engine

/-!
# An engine in memory

A store of documents by index and identifier that answers every call at once. A search does not
evaluate the query text: it returns what lies in the index asked for, if one is, and has one of
the identifiers asked for, if there are any. `Rehearsal` puts prepared answers and failures in
front of a store, by the name of the call.
-/

namespace ResourceSearch

/-- Where a document is stored. Addresses are ordered by index, then by identifier. -/
structure Address where
  index : String
  id : String
deriving DecidableEq, Repr

instance : LT Address where
  lt a b := a.index < b.index ∨ (a.index = b.index ∧ a.id < b.id)

instance : DecidableLT Address := fun a b ↦
  inferInstanceAs (Decidable (a.index < b.index ∨ (a.index = b.index ∧ a.id < b.id)))

instance : KeyOrder Address where
  lt_irrefl a h := h.elim (String.lt_irrefl _) fun h ↦ String.lt_irrefl _ h.2
  lt_trans := by
    rintro ⟨i, x⟩ ⟨j, y⟩ ⟨k, z⟩ (h | ⟨rfl, h⟩) (h' | ⟨rfl, h'⟩)
    · exact .inl (String.lt_trans h h')
    · exact .inl h
    · exact .inl h'
    · exact .inr ⟨rfl, String.lt_trans h h'⟩
  lt_or_lt_of_ne := by
    rintro ⟨i, x⟩ ⟨j, y⟩ h
    by_cases hij : i = j
    · subst hij
      have hxy : x ≠ y := fun hxy ↦ h (by rw [hxy])
      exact (KeyOrder.lt_or_lt_of_ne hxy).imp (fun h ↦ .inr ⟨rfl, h⟩) fun h ↦ .inr ⟨rfl, h⟩
    · exact (KeyOrder.lt_or_lt_of_ne hij).imp .inl .inl

/-- Documents by their addresses, in the order of the addresses. -/
structure Store where
  documents : Dict Address Json

namespace Store

def empty : Store := ⟨∅⟩

def get? (store : Store) (address : Address) : Option Json :=
  store.documents.get? address

/-- Writes a document, over one at the same address. -/
def put (store : Store) (address : Address) (source : Json) : Store :=
  ⟨store.documents.insert address source⟩

def remove (store : Store) (address : Address) : Store :=
  ⟨store.documents.erase address⟩

@[simp] theorem get?_put_self (store : Store) (address : Address) (source : Json) :
    (store.put address source).get? address = some source :=
  Dict.get?_insert_self _ _ _

theorem get?_put_of_ne (store : Store) {address other : Address} (h : other ≠ address)
    (source : Json) : (store.put address source).get? other = store.get? other :=
  Dict.get?_insert_of_ne _ h _

@[simp] theorem get?_remove_self (store : Store) (address : Address) :
    (store.remove address).get? address = none :=
  Dict.get?_erase_self _ _

theorem get?_remove_of_ne (store : Store) {address other : Address} (h : other ≠ address) :
    (store.remove address).get? other = store.get? other :=
  Dict.get?_erase_of_ne _ h

/-- Drops all documents of some indices. -/
def dropIndices (store : Store) (indices : List String) : Store :=
  ⟨store.documents.filter fun (address, _) ↦ address.index ∉ indices⟩

/-- Writes a document of a bulk call. -/
def putItem (store : Store) (item : BulkItem) : Store :=
  store.put ⟨item.index, item.id⟩ (.ofDict item.source)

/-! ## Answering -/

/-- The identifiers that a search asks for; none if it does not ask by identifier. -/
def requestedIds? (request : SearchRequest) : Option (List String) :=
  ((request.body.path? ["query", "ids", "values"]).bind Json.array?).map
    (·.filterMap Json.string?)

/-- Whether a search finds what is stored at an address. -/
def finds (request : SearchRequest) (address : Address) : Bool :=
  (match request.index with
    | some index => address.index = index
    | none => true) &&
  match requestedIds? request with
  | some ids => address.id ∈ ids
  | none => true

/-- A document as a hit. -/
def hit (address : Address) (source : Json) : Json :=
  .object [("_id", .string address.id), ("_index", .string address.index), ("_source", source)]

/-- The response to a search. -/
def search (store : Store) (request : SearchRequest) : Json :=
  let found := store.documents.entries.filter fun (address, _) ↦ finds request address
  .object [("hits", .object
    [("hits", .array (found.map fun (address, source) ↦ hit address source)),
      ("total", .object [("value", .nat found.length)])])]

/-- Answers a call. -/
def answer (c : Call) (store : Store) : Answer × Store :=
  match c with
  | .search request => (.ok (store.search request), store)
  | .bulk items => (.ok (.object [("errors", .bool false)]), items.foldl putItem store)
  | .delete index id =>
    match store.get? ⟨index, id⟩ with
    | some _ => (.ok .null, store.remove ⟨index, id⟩)
    | none => (.error (.notFound (index ++ "/" ++ id)), store)
  | .updateByQuery _ => (.ok (.object [("updated", .nat 0)]), store)
  | .createIndex _ => (.ok .null, store)
  | .deleteIndices indices =>
    (.ok (.object [("acknowledged", .bool true)]), store.dropIndices indices)

/-- The engine that keeps its documents in a store and never fails. -/
def engine : Engine Store := ⟨answer⟩

end Store

/-! ## Prepared answers -/

/-- The name of a kind of call. -/
def Call.name : Call → String
  | search _ => "search"
  | bulk _ => "bulk"
  | delete _ _ => "delete"
  | updateByQuery _ => "update_by_query"
  | createIndex _ => "create_index"
  | deleteIndices _ => "delete_indices"

/-- A store with failures and responses prepared for calls, by name. The creation of one index
has a name of its own. -/
structure Rehearsal where
  store : Store
  failures : Dict String EngineError
  responses : Dict String Json

namespace Rehearsal

def start : Rehearsal := ⟨.empty, ∅, ∅⟩

/-- Whether a prepared response takes the place of the store's own. -/
def takesResponse : Call → Bool
  | .search _ | .bulk _ | .updateByQuery _ | .deleteIndices _ => true
  | .delete _ _ | .createIndex _ => false

/-- The failure prepared for a call. -/
def failure? (rehearsal : Rehearsal) (c : Call) : Option EngineError :=
  (rehearsal.failures.get? c.name).or <|
    match c with
    | .createIndex definition =>
      rehearsal.failures.get? (c.name ++ ":" ++ definition.index)
    | _ => none

/-- Answers a call: by a prepared failure, else by a prepared response, else from the store. -/
def answer (c : Call) (rehearsal : Rehearsal) : Answer × Rehearsal :=
  match rehearsal.failure? c with
  | some error => (.error error, rehearsal)
  | none =>
    match if takesResponse c then rehearsal.responses.get? c.name else none with
    | some response => (.ok response, rehearsal)
    | none =>
      let (answer, store) := Store.answer c rehearsal.store
      (answer, { rehearsal with store := store })

def engine : Engine Rehearsal := ⟨answer⟩

end Rehearsal

end ResourceSearch
