import ResourceSearch.Proofs.Indexing.Removal
import ResourceSearch.Proofs.Routing

/-!
# Flushing

A flush drops the indices that the routing table names, and then nothing is stored. For this to be
so, nothing may ever be written to an index that the table does not name. Documents, schema changes
and queries find their indices in different ways, and each way ends at an index that exists or at
the unclassified one; the indices that exist are those that have a built-in definition, one each.

## Calls and what they leave

What a run does to an engine it does by its calls. So it is enough to know that no operation makes a
bulk call with a document for any other index, and that such calls, made one after the other, store
nothing elsewhere: `Covers` says the first of a call, `LiesIn` the second of a store. An engine may
fail a call, which then has no effect.
-/

namespace ResourceSearch

/-! ## Indices with a definition -/

/-- A list of indices serves a table: no index stands in it twice, the unclassified one does not at
all, and whatever else is looked up in the table does. -/
structure RoutingTable.ServedBy (table : RoutingTable) (indices : List String) : Prop where
  nodup : indices.Nodup
  unclassified_not_mem : unclassified ∉ indices
  indexForClass? : ∀ type index, table.indexForClass? type = some index → index ≠ unclassified →
    index ∈ indices
  indexForTypes : ∀ types, table.indexForTypes types ≠ unclassified →
    table.indexForTypes types ∈ indices
  indexForTypeOrAncestors : ∀ type ancestors,
    table.indexForTypeOrAncestors type ancestors ≠ unclassified →
      table.indexForTypeOrAncestors type ancestors ∈ indices
  indexForStructure : ∀ name, table.indexForStructure name ≠ unclassified →
    table.indexForStructure name ∈ indices

theorem RoutingTable.servedBy_physicalIndices (table : RoutingTable) :
    table.ServedBy table.physicalIndices where
  nodup := table.nodup_physicalIndices
  unclassified_not_mem h := (mem_physicalIndices.mp h).2 rfl
  indexForClass? _ _ := mem_physicalIndices_of_indexForClass?
  indexForTypes _ := mem_physicalIndices_of_indexForTypes
  indexForTypeOrAncestors _ _ := mem_physicalIndices_of_indexForTypeOrAncestors
  indexForStructure _ := mem_physicalIndices_of_indexForStructure

namespace Config

/-- Among the built-in definitions there is exactly one of an index. -/
def DefinesOnce (config : Config) (index : String) : Prop :=
  config.definitions.filter (·.index = index) = [config.definition index]

variable {config : Config}

theorem definesOnce_iff {index : String} :
    config.DefinesOnce index ↔ index ∈ config.routing.physicalIndices := by
  have hfilter : config.definitions.filter (·.index = index)
      = List.replicate (config.routing.physicalIndices.count index) (config.definition index) := by
    rw [definitions, List.filter_map, ← List.map_replicate, ← List.filter_eq]
    rfl
  rw [DefinesOnce, hfilter]
  constructor
  · intro h
    have hcount := congrArg List.length h
    rw [List.length_replicate, List.length_singleton] at hcount
    exact List.count_pos_iff.mp (hcount ▸ Nat.one_pos)
  · intro h
    rw [List.count_eq_one_of_mem config.routing.nodup_physicalIndices h]
    rfl

/-- A call writes and updates documents only in indices that have one definition. -/
def Covers (config : Config) : Call → Prop
  | .bulk items => ∀ item ∈ items, config.DefinesOnce item.index
  | .updateByQuery request => config.DefinesOnce request.index
  | .search _ | .delete _ _ | .createIndex _ | .deleteIndices _ => True

end Config

/-! ## What is stored where -/

namespace Store

/-- Everything that is stored lies in one of some indices. -/
def LiesIn (store : Store) (indices : List String) : Prop :=
  ∀ address, (store.get? address).isSome → address.index ∈ indices

variable {store : Store} {indices : List String}

theorem liesIn_empty (indices : List String) : empty.LiesIn indices :=
  fun _ h ↦ absurd h (by simp [empty, get?])

theorem isSome_get?_dropIndices {address : Address} :
    ((store.dropIndices indices).get? address).isSome ↔
      (store.get? address).isSome ∧ address.index ∉ indices := by
  rw [get?, get?, Dict.get?, Dict.get?, Entries.isSome_get?_iff, Entries.isSome_get?_iff,
    List.mem_map, List.mem_map, dropIndices, Dict.filter]
  constructor
  · rintro ⟨entry, hentry, rfl⟩
    obtain ⟨hmem, hkept⟩ := List.mem_filter.mp hentry
    exact ⟨⟨entry, hmem, rfl⟩, of_decide_eq_true hkept⟩
  · rintro ⟨⟨entry, hmem, rfl⟩, hkept⟩
    exact ⟨entry, List.mem_filter.mpr ⟨hmem, decide_eq_true hkept⟩, rfl⟩

theorem LiesIn.dropIndices_eq_empty (h : store.LiesIn indices) :
    store.dropIndices indices = empty := by
  refine ext_get? fun address ↦ ?_
  have hnone : ((store.dropIndices indices).get? address) = none := by
    rw [← Option.not_isSome_iff_eq_none, isSome_get?_dropIndices]
    rintro ⟨hstored, hkept⟩
    exact hkept (h address hstored)
  rw [hnone]
  rfl

theorem LiesIn.answer {config : Config} {c : Call} (hc : config.Covers c)
    (h : store.LiesIn config.routing.physicalIndices) :
    (answer c store).2.LiesIn config.routing.physicalIndices := by
  intro address hstored
  cases c with
  | search request => exact h address hstored
  | updateByQuery request => exact h address hstored
  | createIndex definition => exact h address hstored
  | bulk items =>
    rcases isSome_get?_foldl_putItem.mp hstored with ⟨item, hitem, rfl⟩ | hbefore
    · exact Config.definesOnce_iff.mp (hc item hitem)
    · exact h address hbefore
  | deleteIndices indices => exact h address (isSome_get?_dropIndices.mp hstored).1
  | delete index id =>
    rw [Store.answer] at hstored
    split at hstored
    · by_cases haddress : address = ⟨index, id⟩
      · rw [haddress, get?_remove_self] at hstored
        cases hstored
      · rw [get?_remove_of_ne store haddress] at hstored
        exact h address hstored
    · exact h address hstored

end Store

namespace Engine

variable {σ : Type} {engine : Engine σ} {documents : σ → Store}

/-- An engine keeps its documents as a store does, whatever it answers. A call that fails has no
effect, but indices can always be dropped. -/
structure KeepsDocuments (engine : Engine σ) (documents : σ → Store) : Prop where
  answer : ∀ c state, documents (engine.answer c state).2 = documents state ∨
    documents (engine.answer c state).2 = (Store.answer c (documents state)).2
  deleteIndices : ∀ indices state,
    documents (engine.answer (.deleteIndices indices) state).2
      = (documents state).dropIndices indices

theorem keepsDocuments_store : Store.engine.KeepsDocuments id :=
  ⟨fun _ _ ↦ .inr rfl, fun _ _ ↦ rfl⟩

/-- Calls store documents only in indices with a definition, if they are covered. -/
theorem KeepsDocuments.liesIn_after (hengine : engine.KeepsDocuments documents) {config : Config}
    {calls : List Call} (hcalls : ∀ c ∈ calls, config.Covers c) {state : σ}
    (h : (documents state).LiesIn config.routing.physicalIndices) :
    (documents (engine.after calls state)).LiesIn config.routing.physicalIndices := by
  induction calls generalizing state with
  | nil => exact h
  | cons c calls ih =>
    obtain ⟨hc, hrest⟩ := List.forall_mem_cons.mp hcalls
    refine ih hrest ?_
    rcases hengine.answer c state with hsame | heffect
    · rw [hsame]
      exact h
    · rw [heffect]
      exact h.answer hc

end Engine

/-! ## What operations call -/

theorem Indexer.mem_physicalIndices_of_item? {indexer : Indexer} {document : IndexDocument}
    {item : BulkItem} (h : indexer.item? document = some item) :
    item.index ∈ indexer.routing.physicalIndices := by
  have hne := index_ne_unclassified h
  cases htypes : document.types with
  | error error =>
    rw [item?, disposition_of_error htypes] at h
    cases h
  | ok types =>
    rw [item?_of_types htypes] at h
    split at h
    · cases h
    · cases h
      exact RoutingTable.mem_physicalIndices_of_indexForTypes hne

/-- What a host does with a service: it changes its documents and their properties, and it asks. -/
inductive Action where
  | documents (operation : Operation)
  | query (query : Query.UserQuery)
  | search (query : RawQuery)
  | change (change : SchemaChange)

namespace Service

variable {σ : Type}

def act (service : Service σ) : Action → Run σ Unit
  | .documents operation => service.perform operation
  | .query query => do
    let _ ← service.query query
  | .search query => do
    let _ ← service.search query
  | .change change => do
    let _ ← service.change change

/-- Acts in order, whatever comes of each action. -/
def actAll (service : Service σ) : List Action → Run σ Unit
  | [] => return ()
  | action :: actions => do
    service.act action
    service.actAll actions

variable (service : Service σ)

theorem actsWithin_index (documents : List IndexDocument) :
    Run.ActsWithin service.engine service.config.Covers (service.index documents) := by
  refine (service.indexer.actsByCalls_run service.engine documents).within fun world ↦ ?_
  obtain ⟨batches, hcalls, hitems, -⟩ :=
    service.indexer.exists_batches_of_run service.engine documents world
  refine ⟨batches.map .bulk, hcalls, fun c hc ↦ ?_⟩
  obtain ⟨batch, hbatch, rfl⟩ := List.mem_map.mp hc
  intro item hitem
  have haccepted := List.mem_flatten.mpr ⟨batch, hbatch, hitem⟩
  rw [hitems] at haccepted
  obtain ⟨document, -, hdocument⟩ := List.mem_filterMap.mp haccepted
  exact Config.definesOnce_iff.mpr (Indexer.mem_physicalIndices_of_item? hdocument)

theorem actsWithin_remove (id : String) :
    Run.ActsWithin service.engine service.config.Covers (service.remove id) := by
  have hlookup : Run.ActsWithin service.engine service.config.Covers
      (service.engine.lookup [id]) :=
    (Run.actsWithin_call trivial).returning _
  refine hlookup.bind fun found ↦ ?_
  match found with
  | .error error => exact Run.actsWithin_pure _
  | .ok none => exact (Run.actsWithin_logAll _).returning _
  | .ok (some hit) =>
    dsimp only
    rw [Engine.removeHit]
    split
    · exact (Run.actsWithin_logAll _).returning _
    · refine (Run.actsWithin_call trivial).bind fun answer ↦ ?_
      cases answer with
      | error error => exact Run.actsWithin_pure _
      | ok response => exact (Run.actsWithin_logAll _).returning _

theorem actsWithin_query (query : Query.UserQuery) :
    Run.ActsWithin service.engine service.config.Covers (service.query query) := by
  refine (Run.actsWithin_logAll _).bind fun _ ↦ (Run.actsWithin_call trivial).bind fun answer ↦ ?_
  cases answer with
  | ok response => exact Run.actsWithin_pure _
  | error error => exact (Run.actsWithin_logAll _).returning _

theorem actsWithin_search (query : RawQuery) :
    Run.ActsWithin service.engine service.config.Covers (service.search query) :=
  (Run.actsWithin_logAll _).bind fun _ ↦ (Run.actsWithin_call trivial).returning _

theorem actsWithin_change (change : SchemaChange) :
    Run.ActsWithin service.engine service.config.Covers (service.change change) := by
  rw [Service.change, SchemaChange.run]
  split
  · exact Run.actsWithin_pure _
  · rename_i update hupdate
    split
    · exact (Run.actsWithin_logAll _).returning _
    · rename_i hindex
      have hne : update.index service.config.routing ≠ unclassified := by
        simpa [isUnclassified] using hindex
      have hcovers : service.config.Covers
          (.updateByQuery (update.request service.config.routing)) :=
        Config.definesOnce_iff.mpr (RoutingTable.mem_physicalIndices_of_indexForTypeOrAncestors hne)
      refine (Run.actsWithin_logAll _).bind fun _ ↦
        (Run.actsWithin_call hcovers).bind fun answer ↦ ?_
      cases answer with
      | ok response => exact Run.actsWithin_pure _
      | error error => exact (Run.actsWithin_logAll _).returning _

theorem actsWithin_act (action : Action) :
    Run.ActsWithin service.engine service.config.Covers (service.act action) := by
  cases action with
  | documents operation =>
    cases operation with
    | index documents => exact (service.actsWithin_index documents).returning _
    | remove id => exact (service.actsWithin_remove id).returning _
  | query query => exact (service.actsWithin_query query).returning _
  | search query => exact (service.actsWithin_search query).returning _
  | change change => exact (service.actsWithin_change change).returning _

theorem actsWithin_actAll (actions : List Action) :
    Run.ActsWithin service.engine service.config.Covers (service.actAll actions) := by
  induction actions with
  | nil => exact Run.actsWithin_pure _
  | cons action actions ih => exact (service.actsWithin_act action).bind fun _ ↦ ih

/-! ## What a flush leaves -/

theorem documents_flush_eq_empty {service : Service σ} {documents : σ → Store}
    (hengine : service.engine.KeepsDocuments documents) {world : World σ}
    (h : (documents world.engine).LiesIn service.config.routing.physicalIndices) :
    documents (service.flush world).2.engine = .empty := by
  have hdropped : documents (service.flush world).2.engine
      = (documents world.engine).dropIndices service.config.routing.physicalIndices :=
    hengine.deleteIndices _ _
  rw [hdropped, h.dropIndices_eq_empty]

/-- A query searches an index that exists, or the unclassified one. -/
theorem index_compile (query : Query.UserQuery) :
    ∃ index, (service.compiler.compile query).index = some index ∧
      (index = unclassified ∨ service.config.DefinesOnce index) := by
  refine ⟨service.config.routing.indexForStructure query.resourceType, rfl, ?_⟩
  by_cases hindex : service.config.routing.indexForStructure query.resourceType = unclassified
  · exact .inl hindex
  · exact .inr (Config.definesOnce_iff.mpr
      (RoutingTable.mem_physicalIndices_of_indexForStructure hindex))

/-- **The indices that exist are enough.** The indices that a routing table names serve it. So
whatever a host does with a service, on any engine, the documents of its bulk calls and its schema
changes go to indices that have exactly one built-in definition; a query searches such an index or
the unclassified one; and if the engine keeps documents as a store does and had none at first, it
has none after a flush. -/
theorem physicalIndices_suffice (service : Service σ) :
    service.config.routing.ServedBy service.config.routing.physicalIndices ∧
    (∀ query, ∃ index, (service.compiler.compile query).index = some index ∧
      (index = unclassified ∨ service.config.DefinesOnce index)) ∧
    ∀ (actions : List Action) (world : World σ),
      (∃ calls, (service.actAll actions world).2.calls = world.calls ++ calls ∧
        ∀ c ∈ calls, service.config.Covers c) ∧
      ∀ documents : σ → Store, service.engine.KeepsDocuments documents →
        documents world.engine = .empty →
          documents (service.flush (service.actAll actions world).2).2.engine = .empty := by
  refine ⟨service.config.routing.servedBy_physicalIndices, service.index_compile,
    fun actions world ↦ ?_⟩
  obtain ⟨calls, hcalls, hafter, hcovers⟩ := service.actsWithin_actAll actions world
  refine ⟨⟨calls, hcalls, hcovers⟩, fun documents hengine hempty ↦ ?_⟩
  refine documents_flush_eq_empty hengine ?_
  rw [hafter]
  exact hengine.liesIn_after hcovers (hempty ▸ Store.liesIn_empty _)

/-- A table that names the unclassified index, and a structure that shows an index of its own. -/
def tangledTable : RoutingTable :=
  ((RoutingTable.ofClasses
    [⟨ResourceClass.item, "a"⟩, ⟨ResourceClass.test, unclassified⟩, ⟨ResourceClass.group, "a"⟩]
    ).withStructure "items" "b").withStructure "tests" unclassified

/-- A service that routes by this table. -/
def tangled : Service Store :=
  onStore { routing := tangledTable } none

/-- Documents with and without a route are indexed, and everything else is done once. -/
def tangledActions : List Action :=
  [.documents (.index [typedDocument "x" ResourceClass.item, typedDocument "y" ResourceClass.test]),
    .query ⟨"x", "items", 0, 10, "label", .ascending⟩, .search { index := "a" },
    .change (.remove ⟨"p", ResourceClass.group, []⟩), .documents (.remove "z")]

theorem flush_tangled :
    tangledTable.physicalIndices = ["a", "b"] ∧
    Store.engine.KeepsDocuments id ∧
    (tangled.actAll tangledActions (.start .empty .empty)).2.engine.holders "x" = ["a"] ∧
    (tangled.flush (tangled.actAll tangledActions (.start .empty .empty)).2).2.engine = .empty := by
  obtain ⟨-, -, hruns⟩ := tangled.physicalIndices_suffice
  refine ⟨by decide +kernel, Engine.keepsDocuments_store, by decide +kernel, ?_⟩
  exact (hruns tangledActions (.start .empty .empty)).2 id Engine.keepsDocuments_store rfl

end Service

end ResourceSearch
