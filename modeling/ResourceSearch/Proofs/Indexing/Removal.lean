import ResourceSearch.Proofs.Engine.Holders
import ResourceSearch.Proofs.Indexing.Upserts
import ResourceSearch.Service

/-!
# Removal

A removal that reports success has dropped the document from the first of the indices that hold its
identifier, and has changed nothing else. Whether the document is gone then depends on how many
indices held it. Indexing writes a document into one index and looks into no other, so a document
that comes again with other types may be held by two, and one removal leaves a copy behind.

## Where copies can be

Nothing is stored that has not been accepted for its index before: `mem_accepted_of_reached`, by
induction on the operations of a run. A document whose types have always led to one index is held by
that index only, and removing it once is enough.
-/

namespace ResourceSearch

/-- What a host does with the documents of a service. -/
inductive Operation where
  | index (documents : List IndexDocument)
  | remove (id : String)

/-- The documents that operations index, in order. -/
def Operation.documents : List Operation → List IndexDocument
  | [] => []
  | .index documents :: operations => documents ++ Operation.documents operations
  | .remove _ :: operations => Operation.documents operations

namespace Service

section

variable {σ : Type}

def perform (service : Service σ) : Operation → Run σ Unit
  | .index documents => do
    let _ ← service.index documents
  | .remove id => do
    let _ ← service.remove id

/-- Performs operations in their order, whatever each of them answers. -/
def performAll (service : Service σ) : List Operation → Run σ Unit
  | [] => return ()
  | operation :: operations => do
    service.perform operation
    service.performAll operations

/-- What operations have written or will write, in order. -/
def accepted (service : Service σ) (operations : List Operation) : List BulkItem :=
  (Operation.documents operations).filterMap service.indexer.item?

end

/-- The service on a store. -/
def onStore (config : Config) (access : Option AccessControl) : Service Store :=
  ⟨Store.engine, config, access⟩

/-- What operations lead to when nothing is stored at first. -/
def reached (service : Service Store) (operations : List Operation) (files : Files) :
    World Store :=
  (service.performAll operations (World.start .empty files)).2

/-- No index holds a document with an identifier, and whoever asks is told so. -/
structure IsGone (service : Service Store) (id : String) (world : World Store) : Prop where
  not_stored : ∀ index, world.engine.get? ⟨index, id⟩ = none
  not_found : (service.lookup [id] world).1 = .ok none
  not_removed : (service.remove id world).1 = .ok false

variable {config : Config} {access : Option AccessControl} {id : String} {world : World Store}

theorem isGone_iff :
    (onStore config access).IsGone id world ↔ world.engine.holders id = [] := by
  constructor
  · intro h
    exact Store.holders_eq_nil_iff.mpr h.not_stored
  · intro h
    refine ⟨Store.holders_eq_nil_iff.mp h, ?_, (Store.remove_of_holders_nil h).1⟩
    have hfound := (Store.lookup_apply id world).1
    rw [List.map_eq_nil_iff.mp h] at hfound
    exact hfound

/-! ## Where copies can be -/

theorem isSome_get?_of_perform {operation : Operation} {address : Address}
    (h : (((onStore config access).perform operation world).2.engine.get? address).isSome) :
    (∃ item ∈ (onStore config access).accepted [operation], address = ⟨item.index, item.id⟩) ∨
      (world.engine.get? address).isSome := by
  cases operation with
  | index documents =>
    have hengine : ((onStore config access).perform (.index documents) world).2.engine
        = (documents.filterMap (onStore config access).indexer.item?).foldl Store.putItem
            world.engine := Store.engine_run _ documents world
    rw [hengine, Store.isSome_get?_foldl_putItem] at h
    rw [accepted, Operation.documents, Operation.documents, List.append_nil]
    exact h
  | remove id => exact .inr (Store.isSome_get?_of_remove h)

theorem accepted_cons (operation : Operation) (operations : List Operation) :
    (onStore config access).accepted (operation :: operations)
      = (onStore config access).accepted [operation]
        ++ (onStore config access).accepted operations := by
  rw [accepted, accepted, accepted, ← List.filterMap_append]
  cases operation with
  | index documents => rw [Operation.documents, Operation.documents, Operation.documents,
      List.append_nil]
  | remove id => rfl

theorem isSome_get?_of_performAll {operations : List Operation} {address : Address}
    (h : (((onStore config access).performAll operations world).2.engine.get? address).isSome) :
    (∃ item ∈ (onStore config access).accepted operations, address = ⟨item.index, item.id⟩) ∨
      (world.engine.get? address).isSome := by
  induction operations generalizing world with
  | nil => exact .inr h
  | cons operation operations ih =>
    rw [performAll, Run.bind_apply] at h
    rw [accepted_cons]
    rcases ih h with ⟨item, hitem, haddress⟩ | hbefore
    · exact .inl ⟨item, List.mem_append_right _ hitem, haddress⟩
    · refine (isSome_get?_of_perform hbefore).imp_left ?_
      rintro ⟨item, hitem, haddress⟩
      exact ⟨item, List.mem_append_left _ hitem, haddress⟩

theorem mem_accepted_of_reached {operations : List Operation} {files : Files} {index : String}
    (h : index ∈ ((onStore config access).reached operations files).engine.holders id) :
    ∃ item ∈ (onStore config access).accepted operations, item.index = index ∧ item.id = id := by
  rw [Store.mem_holders] at h
  rcases isSome_get?_of_performAll h with ⟨item, hitem, haddress⟩ | hstart
  · obtain ⟨hindex, hid⟩ := Address.mk.inj haddress
    exact ⟨item, hitem, hindex.symm, hid.symm⟩
  · cases hstart

/-- An identifier whose documents were all accepted for one index is held by no other. -/
theorem eq_nil_of_holders_of_reached {operations : List Operation} {files : Files} {index : String}
    {others : List String}
    (hone : ∀ item ∈ (onStore config access).accepted operations,
      ∀ item' ∈ (onStore config access).accepted operations,
        item.id = id → item'.id = id → item.index = item'.index)
    (h : ((onStore config access).reached operations files).engine.holders id = index :: others) :
    others = [] := by
  refine List.eq_nil_iff_forall_not_mem.mpr fun other hother ↦ ?_
  -- Each holder was written by an accepted document, and these all went to the same index.
  have hpairwise := ((onStore config access).reached operations files).engine.pairwise_holders id
  rw [h, List.pairwise_cons] at hpairwise
  obtain ⟨item, hitem, hindex, hid⟩ := mem_accepted_of_reached (h ▸ List.mem_cons_self)
  obtain ⟨item', hitem', hindex', hid'⟩ :=
    mem_accepted_of_reached (h ▸ List.mem_cons_of_mem index hother)
  have heq := hone item hitem item' hitem' hid hid'
  rw [hindex, hindex'] at heq
  exact hpairwise.1 other hother heq

/-- **What a removal removes.** After any operations, a removal that reports success has taken the
document from the first index that held it and left all others alone. So the document is gone
exactly if no other index held it; and no other did if all documents with its identifier were
accepted for one index. -/
theorem isGone_iff_of_remove (config : Config) (access : Option AccessControl)
    (operations : List Operation) (files : Files) (id : String)
    (h : ((onStore config access).remove id ((onStore config access).reached operations files)).1
      = .ok true) :
    ∃ (index : String) (others : List String) (after : World Store),
      ((onStore config access).reached operations files).engine.holders id = index :: others ∧
      ((onStore config access).remove id ((onStore config access).reached operations files)).2
        = after ∧
      after.engine.get? ⟨index, id⟩ = none ∧
      (∀ address, address ≠ ⟨index, id⟩ → after.engine.get? address
        = ((onStore config access).reached operations files).engine.get? address) ∧
      ((onStore config access).IsGone id after ↔ others = []) ∧
      ((∀ item ∈ (onStore config access).accepted operations,
          ∀ item' ∈ (onStore config access).accepted operations,
            item.id = id → item'.id = id → item.index = item'.index) →
        (onStore config access).IsGone id after) := by
  obtain ⟨index, others, hholders, hafter⟩ := Store.exists_holders_of_remove h
  have hgone : (onStore config access).IsGone id
      ((onStore config access).remove id ((onStore config access).reached operations files)).2 ↔
      others = [] := by
    rw [isGone_iff, ← Store.holders_remove_head hholders, ← hafter]
    rfl
  refine ⟨index, others, _, hholders, rfl, ?_, fun address haddress ↦ ?_, hgone, fun hone ↦ ?_⟩
  · exact hafter ▸ Store.get?_remove_self _ _
  · exact hafter ▸ Store.get?_remove_of_ne _ haddress
  · exact hgone.mpr (eq_nil_of_holders_of_reached hone hholders)

/-- A document that says its type and nothing else. -/
def typedDocument (id type : String) : IndexDocument :=
  ⟨id, .ofList [(typeField, .string type)], ∅, ∅⟩

/-- A document that is indexed, removed and indexed again, among others. -/
def reindexings : List Operation :=
  [.index [typedDocument "a" ResourceClass.item, typedDocument "b" ResourceClass.test],
    .remove "a",
    .index [typedDocument "c" ResourceClass.item, typedDocument "a" ResourceClass.item]]

theorem isGone_of_reindexings :
    ((onStore {} none).remove "a" ((onStore {} none).reached reindexings .empty)).1 = .ok true ∧
    ∃ after : World Store,
      ((onStore {} none).remove "a" ((onStore {} none).reached reindexings .empty)).2 = after ∧
      (onStore {} none).IsGone "a" after ∧
      (after.engine.get? ⟨Index.items, "c"⟩).isSome := by
  have hremove : ((onStore {} none).remove "a"
      ((onStore {} none).reached reindexings .empty)).1 = .ok true := by rfl
  have hitems : ((onStore {} none).accepted reindexings).map (fun item ↦ (item.index, item.id))
      = [(Index.items, "a"), (Index.tests, "b"), (Index.items, "c"), (Index.items, "a")] := by
    decide +kernel
  have hone : ∀ item ∈ (onStore {} none).accepted reindexings, item.id = "a" →
      item.index = Index.items := by
    intro item hitem hid
    have hmem := List.mem_map_of_mem (f := fun item : BulkItem ↦ (item.index, item.id)) hitem
    rw [hitems, hid] at hmem
    simpa using hmem
  obtain ⟨index, others, after, hholders, hafter, -, hothers, -, hgone⟩ :=
    isGone_iff_of_remove {} none reindexings .empty "a" hremove
  refine ⟨hremove, after, hafter, hgone fun item hitem item' hitem' hid hid' ↦ ?_, ?_⟩
  · rw [hone item hitem hid, hone item' hitem' hid']
  · rw [hothers ⟨Index.items, "c"⟩ (by simp)]
    decide +kernel

/-- A document that is indexed as an item, and again as a test. -/
def retypings : List Operation :=
  [.index [typedDocument "a" ResourceClass.item], .index [typedDocument "a" ResourceClass.test]]

/-- One removal does not reach both copies of a document that has changed its type. -/
theorem not_isGone_retypings :
    ((onStore {} none).remove "a" ((onStore {} none).reached retypings .empty)).1 = .ok true ∧
    ((((onStore {} none).remove "a" ((onStore {} none).reached retypings .empty)).2).engine.get?
      ⟨Index.tests, "a"⟩).isSome ∧
    ¬ (onStore {} none).IsGone "a"
      ((onStore {} none).remove "a" ((onStore {} none).reached retypings .empty)).2 := by
  have hleft : ((((onStore {} none).remove "a"
      ((onStore {} none).reached retypings .empty)).2).engine.get? ⟨Index.tests, "a"⟩).isSome := by
    decide +kernel
  refine ⟨by rfl, hleft, fun hgone ↦ ?_⟩
  rw [hgone.not_stored Index.tests] at hleft
  cases hleft

end Service

end ResourceSearch
