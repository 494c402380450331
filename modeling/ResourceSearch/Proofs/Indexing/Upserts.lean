import Mathlib.Data.List.Nodup
import Mathlib.Data.List.Perm.Basic
import ResourceSearch.Engine.Store
import ResourceSearch.Proofs.Engine.Calls
import ResourceSearch.Proofs.Indexing.Batches

/-!
# Indexing into a store

Batches are an affair of the calls only. A store that takes bulk calls writes the documents of each
in order, so after a run it is what it would be had every accepted document been written by itself,
as it came. What lies in a store after a run is therefore what lay there before or was accepted.

## Writing over

Writing documents one by one is understood address by address: `get?_foldl_upsert` says that what
they write into an empty store takes precedence over what another store holds. That indexing again
changes nothing follows from this, and that documents with different identifiers may come in any
order, since they are written to different addresses.
-/

namespace ResourceSearch

namespace Indexer

variable {σ : Type}

/-! ## Runs act by calls -/

theorem actsByCalls_flush (engine : Engine σ) (context : List (String × Json))
    (progress : Progress) : Run.ActsByCalls engine (flush engine context progress) :=
  (Run.actsByCalls_logAll _).bind fun _ ↦ (Run.actsByCalls_call _).bind fun _ ↦
    (Run.actsByCalls_logAll _).bind fun _ ↦ Run.actsByCalls_pure _

theorem actsByCalls_step (indexer : Indexer) (engine : Engine σ) (progress : Progress)
    (document : IndexDocument) :
    Run.ActsByCalls engine (indexer.step engine progress document) := by
  rw [step]
  refine (Run.actsByCalls_logAll _).bind fun _ ↦ ?_
  cases indexer.disposition document with
  | refused error => exact Run.actsByCalls_pure _
  | unrouted => exact Run.actsByCalls_pure _
  | accepted item =>
    dsimp only
    split
    · exact actsByCalls_flush engine _ _
    · exact Run.actsByCalls_pure _

theorem actsByCalls_run (indexer : Indexer) (engine : Engine σ) (documents : List IndexDocument) :
    Run.ActsByCalls engine (indexer.run engine documents) := by
  rw [run]
  refine (Run.ActsByCalls.foldlM (indexer.actsByCalls_step engine) _ documents).bind
    fun progress ↦ ?_
  dsimp only
  split
  · exact (Run.actsByCalls_pure _).bind fun _ ↦
      (Run.actsByCalls_logAll _).bind fun _ ↦ Run.actsByCalls_pure _
  · exact (actsByCalls_flush engine _ _).bind fun _ ↦
      (Run.actsByCalls_logAll _).bind fun _ ↦ Run.actsByCalls_pure _

end Indexer

namespace Store

theorem after_bulk (batches : List (List BulkItem)) (store : Store) :
    engine.after (batches.map .bulk) store = batches.flatten.foldl putItem store := by
  induction batches generalizing store with
  | nil => rfl
  | cons batch batches ih =>
    rw [List.flatten_cons, List.foldl_append, ← ih]
    rfl

theorem engine_run (indexer : Indexer) (documents : List IndexDocument) (world : World Store) :
    (indexer.run engine documents world).2.engine
      = (documents.filterMap indexer.item?).foldl putItem world.engine := by
  obtain ⟨calls, hcalls, hafter⟩ := indexer.actsByCalls_run engine documents world
  obtain ⟨batches, hbatches, hitems, -⟩ := indexer.exists_batches_of_run engine documents world
  rw [hbatches] at hcalls
  rw [hafter, ← List.append_cancel_left hcalls, after_bulk, hitems]

theorem isSome_get?_putItem {store : Store} {item : BulkItem} {address : Address} :
    ((store.putItem item).get? address).isSome ↔
      address = ⟨item.index, item.id⟩ ∨ (store.get? address).isSome := by
  rw [putItem]
  by_cases haddress : address = ⟨item.index, item.id⟩
  · rw [haddress, get?_put_self]
    exact iff_of_true rfl (.inl rfl)
  · rw [get?_put_of_ne store haddress]
    exact (or_iff_right haddress).symm

theorem isSome_get?_foldl_putItem {store : Store} {items : List BulkItem} {address : Address} :
    ((items.foldl putItem store).get? address).isSome ↔
      (∃ item ∈ items, address = ⟨item.index, item.id⟩) ∨ (store.get? address).isSome := by
  induction items generalizing store with
  | nil => simp
  | cons item items ih =>
    rw [List.foldl_cons, ih, isSome_get?_putItem, or_left_comm]
    simp only [List.mem_cons, exists_eq_or_imp, or_assoc]

/-! ## One document at a time -/

/-- Writes a document, with its fields merged, into the index that serves its types, if there is
one. -/
def upsert (routing : RoutingTable) (store : Store) (document : IndexDocument) : Store :=
  match document.types with
  | .error _ => store
  | .ok types =>
    if routing.indexForTypes types = unclassified then store
    else store.put ⟨routing.indexForTypes types, document.id⟩ (.ofDict document.source)

theorem upsert_eq (indexer : Indexer) (store : Store) (document : IndexDocument) :
    upsert indexer.routing store document
      = (indexer.item? document).toList.foldl putItem store := by
  rw [upsert]
  cases htypes : document.types with
  | error error =>
    rw [Indexer.item?, Indexer.disposition_of_error htypes]
    rfl
  | ok types =>
    rw [Indexer.item?_of_types htypes]
    dsimp only
    by_cases hindex : indexer.routing.indexForTypes types = unclassified
    · rw [if_pos hindex, if_pos hindex]
      rfl
    · rw [if_neg hindex, if_neg hindex]
      rfl

theorem foldl_upsert_eq (indexer : Indexer) (documents : List IndexDocument) (store : Store) :
    documents.foldl (upsert indexer.routing) store
      = (documents.filterMap indexer.item?).foldl putItem store := by
  induction documents generalizing store with
  | nil => rfl
  | cons document documents ih =>
    rw [List.foldl_cons, ih, upsert_eq, List.filterMap_cons]
    cases indexer.item? document with
    | none => rfl
    | some item => rfl

theorem ext_get? {store store' : Store} (h : ∀ address, store.get? address = store'.get? address) :
    store = store' := by
  obtain ⟨documents⟩ := store
  obtain ⟨documents'⟩ := store'
  exact congrArg mk (Dict.ext_get? h)

/-! ## Writing over -/

section

variable (routing : RoutingTable)

theorem get?_upsert (store : Store) (document : IndexDocument) (address : Address) :
    (upsert routing store document).get? address
      = ((upsert routing empty document).get? address).or (store.get? address) := by
  rw [upsert, upsert]
  cases document.types with
  | error error => rfl
  | ok types =>
    dsimp only
    by_cases hindex : routing.indexForTypes types = unclassified
    · rw [if_pos hindex, if_pos hindex]
      rfl
    · rw [if_neg hindex, if_neg hindex]
      by_cases haddress : address = ⟨routing.indexForTypes types, document.id⟩
      · rw [haddress, get?_put_self, get?_put_self]
        rfl
      · rw [get?_put_of_ne _ haddress, get?_put_of_ne _ haddress]
        rfl

/-- Documents take precedence over what is stored, at the addresses at which they are written. -/
theorem get?_foldl_upsert (documents : List IndexDocument) (store : Store) (address : Address) :
    (documents.foldl (upsert routing) store).get? address
      = ((documents.foldl (upsert routing) empty).get? address).or (store.get? address) := by
  induction documents generalizing store with
  | nil => rfl
  | cons document documents ih =>
    rw [List.foldl_cons, List.foldl_cons, ih, ih (upsert routing empty document), get?_upsert,
      Option.or_assoc]

theorem get?_upsert_empty_of_ne {document : IndexDocument} {address : Address}
    (h : address.id ≠ document.id) : (upsert routing empty document).get? address = none := by
  rw [upsert]
  cases document.types with
  | error error => rfl
  | ok types =>
    dsimp only
    by_cases hindex : routing.indexForTypes types = unclassified
    · rw [if_pos hindex]
      rfl
    · rw [if_neg hindex, get?_put_of_ne _ fun heq ↦ h (congrArg Address.id heq)]
      rfl

theorem foldl_upsert_twice (documents : List IndexDocument) (store : Store) :
    documents.foldl (upsert routing) (documents.foldl (upsert routing) store)
      = documents.foldl (upsert routing) store := by
  refine ext_get? fun address ↦ ?_
  rw [get?_foldl_upsert, get?_foldl_upsert routing documents store, ← Option.or_assoc,
    Option.or_self]

theorem upsert_comm {document document' : IndexDocument} (h : document.id ≠ document'.id)
    (store : Store) :
    upsert routing (upsert routing store document) document'
      = upsert routing (upsert routing store document') document := by
  refine ext_get? fun address ↦ ?_
  rw [get?_upsert, get?_upsert routing store document,
    get?_upsert routing (upsert routing store document'), get?_upsert routing store document']
  -- At any address at most one of the two is written.
  by_cases hid : address.id = document.id
  · rw [get?_upsert_empty_of_ne routing (hid ▸ h), Option.none_or, Option.none_or]
  · rw [get?_upsert_empty_of_ne routing hid, Option.none_or, Option.none_or]

theorem foldl_upsert_perm {documents documents' : List IndexDocument}
    (h : documents.Perm documents') (hids : (documents.map IndexDocument.id).Nodup)
    (store : Store) :
    documents.foldl (upsert routing) store = documents'.foldl (upsert routing) store := by
  refine h.foldl_eq' (fun document hdocument document' hdocument' store ↦ ?_) store
  by_cases hid : document.id = document'.id
  · rw [List.inj_on_of_nodup_map hids hdocument hdocument' hid]
  · exact upsert_comm routing hid store

end

theorem get?_foldl_upsert_of_forall_ne {indexer : Indexer} {documents : List IndexDocument}
    {address : Address}
    (h : ∀ document ∈ documents, ∀ item, indexer.item? document = some item →
      address ≠ ⟨item.index, item.id⟩) (store : Store) :
    (documents.foldl (upsert indexer.routing) store).get? address = store.get? address := by
  have hnone : ((documents.foldl (upsert indexer.routing) empty).get? address) = none := by
    rw [foldl_upsert_eq, ← Option.not_isSome_iff_eq_none, isSome_get?_foldl_putItem]
    rintro (⟨item, hitem, haddress⟩ | hempty)
    · obtain ⟨document, hdocument, haccepted⟩ := List.mem_filterMap.mp hitem
      exact h document hdocument item haccepted haddress
    · cases hempty
  rw [get?_foldl_upsert, hnone, Option.none_or]

/-! ## Whole runs -/

/-- What indexing documents in batches of `n` leads to. -/
def indexed (routing : RoutingTable) (n : Nat) (documents : List IndexDocument)
    (world : World Store) : World Store :=
  ((Indexer.new routing n).run engine documents world).2

theorem engine_indexed (routing : RoutingTable) (n : Nat) (documents : List IndexDocument)
    (world : World Store) :
    (indexed routing n documents world).engine
      = documents.foldl (upsert routing) world.engine := by
  rw [indexed, engine_run, ← foldl_upsert_eq]
  rfl

/-- **Indexing in batches is indexing one by one.** A run leaves what writing the documents one at a
time leaves. So batches of any size lead to the same store; indexing the same documents again
changes nothing, nor does it matter if they are indexed in two runs or, if their identifiers differ,
in another order; and what lies at an address for which no document was accepted stays as it is. -/
theorem indexed_refines_upserts (routing : RoutingTable) (n : Nat) (documents : List IndexDocument)
    (world : World Store) :
    (indexed routing n documents world).engine = documents.foldl (upsert routing) world.engine ∧
    (∀ m, (indexed routing m documents world).engine
      = (indexed routing n documents world).engine) ∧
    (∀ m, (indexed routing m documents (indexed routing n documents world)).engine
      = (indexed routing n documents world).engine) ∧
    (∀ m first second, first ++ second = documents →
      (indexed routing m second (indexed routing n first world)).engine
        = (indexed routing n documents world).engine) ∧
    (∀ documents', documents.Perm documents' → (documents.map IndexDocument.id).Nodup →
      (indexed routing n documents' world).engine = (indexed routing n documents world).engine) ∧
    ∀ address, (∀ document ∈ documents, ∀ item,
        (Indexer.new routing n).item? document = some item → address ≠ ⟨item.index, item.id⟩) →
      (indexed routing n documents world).engine.get? address = world.engine.get? address := by
  refine ⟨engine_indexed routing n documents world, fun m ↦ ?_, fun m ↦ ?_, ?_, ?_, ?_⟩
  · rw [engine_indexed, engine_indexed]
  · rw [engine_indexed, engine_indexed, foldl_upsert_twice]
  · rintro m first second rfl
    rw [engine_indexed, engine_indexed, engine_indexed, List.foldl_append]
  · intro documents' hperm hids
    rw [engine_indexed, engine_indexed, foldl_upsert_perm routing hperm hids]
  · intro address haddress
    rw [engine_indexed]
    exact get?_foldl_upsert_of_forall_ne haddress world.engine

/-- Three documents, of which the second has no type. -/
def mixedDocuments : List IndexDocument :=
  [⟨"a", .ofList [(typeField, .string ResourceClass.item)], ∅, ∅⟩, ⟨"b", ∅, ∅, ∅⟩,
    ⟨"c", .ofList [(typeField, .string ResourceClass.test)], ∅, ∅⟩]

/-- A store that holds one of these documents in another index, and another version of one. -/
def mixedStore : Store :=
  (empty.put ⟨Index.items, "c"⟩ .null).put ⟨Index.tests, "c"⟩ .null

theorem indexed_mixedDocuments :
    mixedDocuments.Perm mixedDocuments.reverse ∧
    (indexed .builtIn 2 mixedDocuments.reverse (.start mixedStore .empty)).engine
      = (indexed .builtIn 2 mixedDocuments (.start mixedStore .empty)).engine ∧
    (indexed .builtIn 2 mixedDocuments (.start mixedStore .empty)).engine.get? ⟨Index.items, "c"⟩
      = some .null := by
  obtain ⟨-, -, -, -, hperm, hothers⟩ :=
    indexed_refines_upserts .builtIn 2 mixedDocuments (.start mixedStore .empty)
  have hreverse : mixedDocuments.Perm mixedDocuments.reverse := (List.reverse_perm _).symm
  refine ⟨hreverse, hperm _ hreverse (by decide), ?_⟩
  rw [hothers ⟨Index.items, "c"⟩ ?_]
  · rfl
  · have hitems : (mixedDocuments.filterMap (Indexer.new .builtIn 2).item?).map
        (fun item ↦ (⟨item.index, item.id⟩ : Address))
          = [⟨Index.items, "a"⟩, ⟨Index.tests, "c"⟩] := by decide +kernel
    intro document hdocument item hitem haddress
    have hmem := List.mem_map_of_mem (f := fun item : BulkItem ↦ (⟨item.index, item.id⟩ : Address))
      (List.mem_filterMap.mpr ⟨document, hdocument, hitem⟩)
    rw [hitems, ← haddress] at hmem
    exact absurd hmem (by decide)

end Store

end ResourceSearch
